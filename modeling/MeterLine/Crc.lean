import MeterLine.Bytes

/-!
# The sixteen-bit frame check

Every frame ends with a cyclic redundancy check of all octets before it, low
octet first.  The register starts at `0xFFFF`, takes each octet into its low
half, and is shifted right eight times; a one that is shifted out folds the
reflected polynomial `0xA001` back in.  Nothing is added at the end, so a frame
followed by its own check leaves the register at zero.

A `FrameCheck` is any pair of a stamping and a testing operation; the executor
takes one as a parameter.  `FrameCheck.crc` is the one that meters use.
-/

namespace MeterLine

namespace Crc

def width : Nat := 2

/-- The reflected polynomial. -/
def polynomial : UInt16 := 0xA001

def shift (register : UInt16) : UInt16 :=
  if register &&& 1 = 1 then (register >>> 1) ^^^ polynomial
  else register >>> 1

def shifts : Nat → UInt16 → UInt16
  | 0, register => register
  | count + 1, register => shifts count (shift register)

def feed (register : UInt16) (octet : UInt8) : UInt16 :=
  shifts 8 (register ^^^ octet.toUInt16)

def checksum (payload : Bytes) : UInt16 :=
  payload.foldl feed 0xFFFF

def trailer (payload : Bytes) : Bytes :=
  let check := checksum payload
  [check.toUInt8, (check >>> 8).toUInt8]

def payload (frame : Bytes) : Bytes :=
  frame.take (frame.length - width)

/-- Overwrite the last two octets with the check of the rest.  A buffer that
has no room for a check stays as it is. -/
def stamp (frame : Bytes) : Bytes :=
  if frame.length < width then frame
  else payload frame ++ trailer (payload frame)

def intact (frame : Bytes) : Bool :=
  if frame.length < width then false
  else frame.drop (frame.length - width) == trailer (payload frame)

end Crc

/-- How frames are stamped before they are sent and tested when they arrive. -/
structure FrameCheck where
  stamp : Bytes → Bytes
  intact : Bytes → Bool

def FrameCheck.crc : FrameCheck :=
  { stamp := Crc.stamp
    intact := Crc.intact }

/-- A check that leaves requests alone and gives every reply the same verdict. -/
def FrameCheck.fixed (verdict : Bool) : FrameCheck :=
  { stamp := id
    intact := fun _ => verdict }

end MeterLine
