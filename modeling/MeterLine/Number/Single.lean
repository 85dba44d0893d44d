import MeterLine.Number.Layout

/-!
# Single-precision numbers

Measurements are single-precision numbers, held as their bit pattern.  All
arithmetic on them goes through exact quotients and `BinaryFormat.round`; a
result beyond the largest number is infinite.
-/

namespace MeterLine

/-- A single-precision number, given by its bits. -/
structure Single where
  bits : UInt32
  deriving Repr, DecidableEq, Inhabited

namespace Single

inductive Magnitude where
  | notANumber
  | infinite
  | finite (number : Dyadic)
  deriving Repr, DecidableEq

def negative (value : Single) : Bool :=
  0x80000000 ≤ value.bits.toNat

def magnitude (value : Single) : Magnitude :=
  let bits := value.bits.toNat % 0x80000000
  if bits < BinaryFormat.single.infinity then
    .finite (BinaryFormat.single.decode bits)
  else if bits = BinaryFormat.single.infinity then .infinite
  else .notANumber

def signed (negative : Bool) (bits : Nat) : Single :=
  ⟨UInt32.ofNat (bits + if negative then 0x80000000 else 0)⟩

def ofQuotient (negative : Bool) (numerator denominator : Nat) : Single :=
  match BinaryFormat.single.round numerator denominator with
  | some number => signed negative (BinaryFormat.single.encode number)
  | none => signed negative BinaryFormat.single.infinity

def ofInt (value : Int) : Single :=
  ofQuotient (value < 0) value.natAbs 1

def divide (value : Single) (divisor : Nat) : Single :=
  match value.magnitude with
  | .finite number =>
      let (numerator, denominator) := number.quotient
      ofQuotient value.negative numerator (denominator * divisor)
  | _ => value

/-- The bits of the same number in double precision; `none` when it is not a
number. -/
def widen (value : Single) : Option Nat :=
  let sign := if value.negative then 0x8000000000000000 else 0
  match value.magnitude with
  | .notANumber => none
  | .infinite => some (sign + BinaryFormat.double.infinity)
  | .finite number =>
      let (numerator, denominator) := number.quotient
      (BinaryFormat.double.round numerator denominator).map fun wide =>
        sign + BinaryFormat.double.encode wide

/-- Plain text: never an exponent, and no point in whole numbers. -/
def plain : Layout :=
  { tie := .up
    plainFrom := none
    plainTo := none
    wholePoint := false
    exponentPlus := false }

/-- Document text: an exponent below a millionth and from ten trillion on, and
a point in every number that has none. -/
def document : Layout :=
  { tie := .even
    plainFrom := some (-5)
    plainTo := some 13
    wholePoint := true
    exponentPlus := true }

def finiteChars (layout : Layout) (negative : Bool) (number : Dyadic) :
    List Char :=
  let sign := if negative then ['-'] else []
  if number.significand = 0 then sign ++ layout.zeroChars
  else
    sign ++ layout.chars
      (Shortest.decimal layout.tie BinaryFormat.single number)

def toText (value : Single) : String :=
  match value.magnitude with
  | .notANumber => "NaN"
  | .infinite => if value.negative then "-inf" else "inf"
  | .finite number => String.ofList (finiteChars plain value.negative number)

end Single

end MeterLine
