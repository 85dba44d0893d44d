import MeterLine.Json
import MeterLine.Number.Single

/-!
# Readings

A reading is what a meter function makes of a reply: a scaled measurement, or
the raw octet of a state check.  In a document both are plain numbers, so a
number that is read back is always a measurement.
-/

namespace MeterLine

/-- The decoded value of a reply. -/
inductive Reading where
  | measured (value : Single)
  | octet (value : UInt8)
  deriving Repr, DecidableEq, Inhabited

namespace Reading

def toText : Reading → String
  | .measured value => value.toText
  | .octet value => toString value.toNat

def formatName : Reading → String
  | .measured _ => "f32"
  | .octet _ => "u8"

def single? : Reading → Option Single
  | .measured value => some value
  | .octet _ => none

def octet? : Reading → Option UInt8
  | .measured _ => none
  | .octet value => some value

/-- The bits of the reading in double precision; `none` when it is not a
number. -/
def doubleBits : Reading → Option Nat
  | .measured value => value.widen
  | .octet value =>
      (BinaryFormat.double.round value.toNat 1).map BinaryFormat.double.encode

def toJson : Reading → Json
  | .measured value => .number (.single value)
  | .octet value => .natural value.toNat

def singleOfNumber : Json.Number → Single
  | .natural value => Single.ofQuotient false value 1
  | .negative magnitude => Single.ofQuotient true magnitude 1
  | .double negative value =>
      let (numerator, denominator) := value.quotient
      Single.ofQuotient negative numerator denominator
  | .single value => value

/-- Any number of a document is a measurement. -/
def ofJson? : Json → Option Reading
  | .number value => some (.measured (singleOfNumber value))
  | _ => none

end Reading

end MeterLine
