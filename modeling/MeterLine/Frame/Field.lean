import MeterLine.Bytes
import MeterLine.Failure

/-!
# Fields of a frame

A field is a number of octets at an offset of a frame, most significant octet
first.  Signed fields are in two's complement.  Offsets are machine words of
sixty-four bits, and so are the ends of fields: the program stops where the sum
of an offset and a width is larger than that.
-/

namespace MeterLine

/-- Where the data of a reply begin: behind the address, the function code and
the count of data octets. -/
def dataOffset : Nat := 3

def Bytes.toNatBig (octets : Bytes) : Nat :=
  octets.foldl (fun value octet => value * 256 + octet.toNat) 0

/-- The number of `width` octets in two's complement that a natural number
below `256 ^ width` stands for. -/
def signedOfNat (width value : Nat) : Int :=
  if 2 * value < Nat.pow 256 width then (value : Int)
  else (value : Int) - (Nat.pow 256 width : Nat)

namespace Frame

/-- An offset at which the end of a field is a machine word. -/
structure Place (width : Nat) where
  offset : UInt64
  fits : offset.toNat + width < UInt64.size

/-- The place of a field at an offset, unless the program stops at the sum. -/
def Place.of? (width : Nat) (offset : UInt64) : Option (Place width) :=
  if fits : offset.toNat + width < UInt64.size then some ⟨offset, fits⟩
  else none

variable {width : Nat}

def missing (frame : Bytes) (place : Place width) : Failure :=
  .invalidData
    s!"need {width} bytes at offset {place.offset}, frame has {frame.length}"

def field (frame : Bytes) (place : Place width) : Except Failure Bytes :=
  if place.offset.toNat + width ≤ frame.length then
    .ok ((frame.drop place.offset.toNat).take width)
  else .error (missing frame place)

def signedField (frame : Bytes) (place : Place width) : Except Failure Int :=
  (field frame place).map fun octets => signedOfNat width octets.toNatBig

def signed32 (frame : Bytes) (place : Place 4) : Except Failure Int :=
  signedField frame place

def signed16 (frame : Bytes) (place : Place 2) : Except Failure Int :=
  signedField frame place

def octet (frame : Bytes) (place : Place 1) : Except Failure UInt8 :=
  (field frame place).map fun octets => octets.headD 0

def signed32At (frame : Bytes) (offset : UInt64) :
    Option (Except Failure Int) :=
  (Place.of? 4 offset).map (signed32 frame)

def signed16At (frame : Bytes) (offset : UInt64) :
    Option (Except Failure Int) :=
  (Place.of? 2 offset).map (signed16 frame)

def octetAt (frame : Bytes) (offset : UInt64) :
    Option (Except Failure UInt8) :=
  (Place.of? 1 offset).map (octet frame)

end Frame

end MeterLine
