import MeterLine.Json.Decode
import MeterLine.Settings.Fault
import MeterLine.Text.Blank

/-!
# Settings of a port

A port is known by its name.  Its line parameters also fix the tick, the
interval at which the line is sampled: the time of one character in
milliseconds, rounded down, and one more.
-/

namespace MeterLine

inductive Parity where
  | none
  | odd
  | even
  | mark
  | space
  deriving Repr, DecidableEq, Inhabited

namespace Parity

def key : Parity → String
  | .none => "NONE"
  | .odd => "ODD"
  | .even => "EVEN"
  | .mark => "MARK"
  | .space => "SPACE"

def all : List Parity :=
  [.none, .odd, .even, .mark, .space]

def ofKey? (key : String) : Option Parity :=
  all.find? fun parity => parity.key == key

theorem ofKey?_key (parity : Parity) : ofKey? parity.key = some parity := by
  cases parity <;> rfl

end Parity

inductive StopBits where
  | one
  | two
  | oneAndHalf
  deriving Repr, DecidableEq, Inhabited

namespace StopBits

def key : StopBits → String
  | .one => "1"
  | .two => "2"
  | .oneAndHalf => "1.5"

def all : List StopBits :=
  [.one, .two, .oneAndHalf]

def ofKey? (key : String) : Option StopBits :=
  all.find? fun stopBits => stopBits.key == key

theorem ofKey?_key (stopBits : StopBits) :
    ofKey? stopBits.key = some stopBits := by
  cases stopBits <;> rfl

/-- The time that the stop bits take, in halves of a bit. -/
def halves : StopBits → Nat
  | .one => 2
  | .two => 4
  | .oneAndHalf => 3

def timeText (stopBits : StopBits) : String :=
  s!"{stopBits.halves / 2}.{stopBits.halves % 2 * 5}"

end StopBits

/-- Settings of one port. -/
structure PortSettings where
  name : String
  baudRate : UInt32
  dataBits : UInt8
  parity : Parity
  stopBits : StopBits
  /-- Milliseconds to wait for the first octet of a reply. -/
  responseWait : UInt64
  deriving Repr, DecidableEq, Inhabited

namespace PortSettings

def defaultResponseWait : UInt64 := 2000

/-- The settings of a port that is known by nothing but its name. -/
def named (name : String) : PortSettings :=
  { name := name
    baudRate := 9600
    dataBits := 8
    parity := .none
    stopBits := .one
    responseWait := defaultResponseWait }

def wait (settings : PortSettings) : Nat :=
  settings.responseWait.toNat

/-- The tick in milliseconds: data bits, stop bits and two more, at the baud
rate, and one millisecond.  The bits are counted in halves. -/
def tick (settings : PortSettings) : Nat :=
  (2 * settings.dataBits.toNat + settings.stopBits.halves + 4) * 500 /
    max 1 settings.baudRate.toNat + 1

theorem tick_pos (settings : PortSettings) : 0 < settings.tick := by
  simp [tick]

def supportedBaudRates : List Nat :=
  [1200, 2400, 4800, 9600]

def leastDataBits : Nat := 5

def greatestDataBits : Nat := 8

def validate (settings : PortSettings) : Except SettingsFault Unit :=
  if isBlank settings.name then .error .blankPortName
  else if settings.baudRate.toNat ∉ supportedBaudRates then
    .error (.unsupportedBaudRate settings.name settings.baudRate.toNat
      supportedBaudRates)
  else if settings.dataBits.toNat < leastDataBits ∨
      greatestDataBits < settings.dataBits.toNat then
    .error (.dataBitsOutside settings.name settings.dataBits.toNat
      leastDataBits greatestDataBits)
  else if settings.responseWait = 0 then
    .error (.noResponseWait settings.name)
  else .ok ()

def toJson (settings : PortSettings) : Json :=
  .record
    [("name", .text settings.name),
      ("baudRate", .natural settings.baudRate.toNat),
      ("dataBits", .natural settings.dataBits.toNat),
      ("parity", .text settings.parity.key),
      ("stopBits", .text settings.stopBits.key),
      ("responseWaitMs", .natural settings.responseWait.toNat)]

/-- Settings from a document.  Parity, stop bits and response wait may be left
out. -/
def ofJson? (document : Json) : Option PortSettings := do
  let parts ← Json.parts?
    ["name", "baudRate", "dataBits", "parity", "stopBits", "responseWaitMs"]
    document
  match parts with
  | [name, baudRate, dataBits, parity, stopBits, responseWait] =>
      let name ← Json.required? Json.text? name
      let baudRate ← Json.required? (Json.naturalUpTo? 0xFFFFFFFF) baudRate
      let dataBits ← Json.required? (Json.naturalUpTo? 255) dataBits
      let parity ← Json.optional? .none (Json.choice? Parity.ofKey?) parity
      let stopBits ←
        Json.optional? .one (Json.choice? StopBits.ofKey?) stopBits
      let responseWait ← Json.optional? defaultResponseWait.toNat
        (Json.naturalUpTo? 0xFFFFFFFFFFFFFFFF) responseWait
      some
        { name := name
          baudRate := UInt32.ofNat baudRate
          dataBits := UInt8.ofNat dataBits
          parity := parity
          stopBits := stopBits
          responseWait := UInt64.ofNat responseWait }
  | _ => none

end PortSettings

end MeterLine
