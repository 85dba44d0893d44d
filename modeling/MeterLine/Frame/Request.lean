import MeterLine.Crc
import MeterLine.Function
import MeterLine.Text.Quoted

/-!
# Requests

A request names a meter, a register and a formatter.  Its frame begins with
the address of the meter, an operation code, a zero, the register and a word
count; everything else is zero, and the last two octets take the check.  The
operation code and the word count belong to the formatter.  They are seeded
with a sentinel, and a frame that still shows the sentinel never reaches the
line.
-/

namespace MeterLine

/-- What a formatter does to a frame: octets written at offsets, in order. -/
abbrev Formatter := List (Nat × UInt8)

/-- A request before it is sent. -/
structure Request where
  device : UInt8
  register : Register
  /-- How many octets its frame has.  Memory is unbounded, so that there is a
  frame of every size. -/
  size : Nat
  formatter : Formatter
  deriving Repr, DecidableEq, Inhabited

namespace Request

def minimumSize : Nat := 8

/-- What stands in the formatter's places before it has run. -/
def sentinel : UInt8 := 0xFF

def formatterPlaces : List Nat := [1, 4, 5]

def readCode : UInt8 := 3

def wordCount : UInt16 := 2

def readFormatter : Formatter :=
  [(1, readCode), (4, (wordCount >>> 8).toUInt8), (5, wordCount.toUInt8)]

def read (device : UInt8) (register : Register) : Request :=
  { device := device
    register := register
    size := minimumSize
    formatter := readFormatter }

def ofFunction (function : MeterFunction) (device : UInt8)
    (register : Register) : Except Failure Request :=
  if function.admits register then .ok (read device register)
  else .error (function.refusal register)

/-- The frame before the formatter has run. -/
def blank (request : Request) : Bytes :=
  let zeros : Bytes := List.replicate request.size 0
  let addressed := Bytes.write (zeros.write 0 request.device) 3
    request.register.address
  formatterPlaces.foldl (fun frame place => Bytes.write frame place sentinel)
    addressed

def formatted (request : Request) : Bytes :=
  request.formatter.foldl
    (fun frame entry => Bytes.write frame entry.1 entry.2) request.blank

/-- The first of the formatter's places that still shows the sentinel. -/
def unset? (frame : Bytes) : Option Nat :=
  formatterPlaces.find? fun place => frame[place]? == some sentinel

def checked (request : Request) : Except Failure Bytes :=
  if request.size < minimumSize then
    .error (.configuration
      s!"request size {request.size} is below the minimum frame size {minimumSize}")
  else
    match unset? request.formatted with
    | some place =>
        .error (.configuration
          s!"frame byte {place} was not set by the formatter")
    | none => .ok request.formatted

/-- The frame to send: checked, then finished by `action`, which may have
effects of its own.  A frame that must not be sent is not handed to it. -/
def finish {m : Type → Type} [Monad m] (request : Request)
    (action : Bytes → m Bytes) : m (Except Failure Bytes) :=
  match request.checked with
  | .ok frame => do
      let finished ← action frame
      return .ok finished
  | .error failure => return .error failure

def message (request : Request) (stamp : Bytes → Bytes) :
    Except Failure Bytes :=
  Id.run (request.finish fun frame => return stamp frame)

theorem message_eq_map (request : Request) (stamp : Bytes → Bytes) :
    request.message stamp = request.checked.map stamp := by
  unfold message finish
  split
  · next frame sound => rw [sound]; rfl
  · next failure refused => rw [refused]; rfl

def isAnsweredBy (request : Request) (reply : Bytes) : Bool :=
  1 < reply.length && reply.head? == some request.device

def label (request : Request) : String :=
  s!"{request.device.toNat}.{request.register.label}"

def describe (port : String) (request : Request) : String :=
  "FunctionArgs \x7b port: " ++ Quoted.quote port ++
    s!", device_id: {request.device.toNat}" ++
    s!", register_id: {request.register.name}" ++
    s!", request_size: {request.size} \x7d"

end Request

end MeterLine
