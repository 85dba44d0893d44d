import MeterLine.Port.Line
import MeterLine.Settings.Port
import MeterLine.Terminal.Path

/-!
# Terminals

A terminal is a line of the operating system.  It can be opened once at a time.
Opening gives a handle, which owns the stream of octets until the stream is
taken out of it; the terminal is open as long as anybody owns the stream.  The
handle also keeps the listener that faults are reported to.  When the peer at
the other end hangs up, reads find the end of the stream, and everything else
that needs the peer is a hardware fault.
-/

namespace MeterLine

/-- A terminal and its peer. -/
structure Terminal where
  name : String
  baudRate : Nat
  stopBits : StopBits
  buffer : Bytes
  /-- Whether a read may find something, for all that is known. -/
  readable : Bool
  hungUp : Bool
  held : Bool
  /-- Whether the handle owns the stream. -/
  owning : Bool
  /-- Whether the stream was taken and not given up. -/
  streaming : Bool
  listener : Option String
  deriving Repr, DecidableEq, Inhabited

/-- What an operation on a terminal comes to: its value, and the event that the
listener hears of, if any. -/
structure TerminalAnswer (α : Type) where
  value : α
  terminal : Terminal
  event : Option (String × PortEvent)

namespace Terminal

def fresh (name : String) : Terminal :=
  { name := name
    baudRate := 38400
    stopBits := .one
    buffer := []
    readable := false
    hungUp := false
    held := false
    owning := false
    streaming := false
    listener := none }

def openingBaudRate : Nat := 9600

def isOpen (terminal : Terminal) : Bool :=
  terminal.owning || terminal.streaming

/-- Give up the handle, with the stream if it owns it. -/
def dropHandle (terminal : Terminal) : Terminal :=
  { terminal with
    held := false
    owning := false
    listener := none }

def dropStream (terminal : Terminal) : Terminal :=
  { terminal with streaming := false }

/-- What an attempt to open a name comes to; without a name, that of the
terminal. -/
def attempt (terminal : Terminal) (name : Option String) :
    Except Failure Unit :=
  match name with
  | some name => .error ((PathTarget.openFault name).openFailure name)
  | none =>
      if terminal.isOpen || terminal.hungUp then
        .error
          (SerialFault.openFailure terminal.name ⟨.noDevice, "in use"⟩)
      else .ok ()

def reset (terminal : Terminal) : Terminal :=
  { terminal with
    baudRate := openingBaudRate
    stopBits := .one
    readable := !terminal.buffer.isEmpty }

/-- Open a name.  The new handle, or none after a failure, takes the place of
the one before. -/
def openHandle (terminal : Terminal) (name : Option String) :
    Terminal × Except Failure Unit :=
  match terminal.attempt name with
  | .ok () =>
      ({ terminal.dropHandle.reset with
          held := true
          owning := true }, .ok ())
  | .error failure => (terminal.dropHandle, .error failure)

def probe (terminal : Terminal) (name : Option String) :
    Terminal × Except Failure Unit :=
  match terminal.attempt name with
  | .ok () => (terminal.reset, .ok ())
  | .error failure => (terminal, .error failure)

def lineFault : SerialFault :=
  { kind := .unknown
    text := "I/O error" }

def streamFault : StreamFault :=
  { kind := .inputOutput
    text := "Input/output error (os error 5)" }

/-- The stop bits that a terminal takes for the given ones: it knows no halves,
and takes the next greater number. -/
def usableStopBits : StopBits → StopBits
  | .one => .one
  | .two => .two
  | .oneAndHalf => .two

/-- Set the line parameters in order, then discard what is buffered.  The first
parameter that cannot be set leaves the earlier ones as they are set. -/
def configure (terminal : Terminal) (settings : PortSettings) :
    Terminal × Except Failure Unit :=
  if terminal.owning = false then
    (terminal, .error (.connection (terminal.name ++ " is not open")))
  else if terminal.hungUp then (terminal, .error lineFault.toFailure)
  else
    let timed := { terminal with baudRate := settings.baudRate.toNat }
    if settings.dataBits < 5 ∨ 8 < settings.dataBits then
      (timed, .error (.configuration
        s!"unsupported data bits {settings.dataBits.toNat}"))
    else
      ({ timed with
          stopBits := usableStopBits settings.stopBits
          buffer := [] }, .ok ())

def takeStream (terminal : Terminal) : Terminal × Except Failure Unit :=
  if terminal.owning then
    ({ terminal with
        owning := false
        streaming := true }, .ok ())
  else
    (terminal, .error (.connection
      (terminal.name ++ " stream already in use or closed")))

def listen (terminal : Terminal) (listener : String) : Terminal :=
  { terminal with listener := some listener }

def unlisten (terminal : Terminal) : Terminal :=
  { terminal with listener := none }

/-- Close the handle: the listener goes, and the stream with it unless it was
taken. -/
def close (terminal : Terminal) : Terminal :=
  { terminal.unlisten with owning := false }

def feed (terminal : Terminal) (octets : Bytes) : Terminal :=
  if terminal.hungUp then terminal
  else
    { terminal with
      buffer := terminal.buffer ++ octets
      readable := terminal.readable || !octets.isEmpty }

def hangUp (terminal : Terminal) : Terminal :=
  { terminal with
    hungUp := true
    readable := true
    buffer := [] }

def quiet (terminal : Terminal) (value : α) : TerminalAnswer α :=
  { value := value
    terminal := terminal
    event := none }

def faulty (terminal : Terminal) (message : String) (value : α) :
    TerminalAnswer α :=
  { value := value
    terminal := terminal
    event := terminal.listener.map fun listener =>
      (listener, .hardwareFault message) }

def available (terminal : Terminal) :
    TerminalAnswer (Except Failure Nat) :=
  if terminal.hungUp then
    let failure := lineFault.toFailure
    terminal.faulty failure.message (.error failure)
  else terminal.quiet (.ok terminal.buffer.length)

/-- A read of at most so many octets.  One that finds nothing waits until
something arrives. -/
def read (terminal : Terminal) (size : Nat) :
    TerminalAnswer (Poll (Except StreamFault Bytes)) :=
  if terminal.readable = false then terminal.quiet (.pending none)
  else if terminal.hungUp ∨ size = 0 then terminal.quiet (.ready (.ok []))
  else if terminal.buffer.isEmpty then
    { terminal with readable := false }.quiet (.pending none)
  else
    { terminal with buffer := terminal.buffer.drop size }.quiet
      (.ready (.ok (terminal.buffer.take size)))

def write (terminal : Terminal) (octets : Bytes) :
    TerminalAnswer (Except StreamFault Bytes) :=
  if terminal.hungUp && !octets.isEmpty then
    if streamFault.isHardware then
      terminal.faulty streamFault.text (.error streamFault)
    else terminal.quiet (.error streamFault)
  else terminal.quiet (.ok octets)

end Terminal

end MeterLine
