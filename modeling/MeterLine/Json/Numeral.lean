import MeterLine.Json

/-!
# Reading numbers

A numeral is read digit by digit into a significand below `2 ^ 64`.  Digits
that no longer fit are dropped: those before the point still count as decimal
places, those behind it do not count at all.  A numeral with a point, an
exponent or dropped digits is a double-precision number: its significand is
rounded to double precision and then scaled by one power of ten, itself rounded
to double precision, with one more rounding.  Each rounding is to nearest, a
tie going to the even significand.  A result beyond the largest number is no
number.
-/

namespace MeterLine.Json

def digitValue (character : Char) : Nat :=
  character.toNat - 48

def spanDigits : List Char → List Char × List Char
  | [] => ([], [])
  | character :: rest =>
      if character.isDigit then
        let (digits, remainder) := spanDigits rest
        (character :: digits, remainder)
      else ([], character :: rest)

/-- The significand read so far and the power of ten it is to be scaled by. -/
structure Significand where
  value : Nat
  exponent : Int
  deriving Repr, DecidableEq

namespace Significand

/-- Whether another digit fits below `2 ^ 64`. -/
def fits (value digit : Nat) : Bool :=
  value * 10 + digit < 0x10000000000000000

def whole (value : Nat) : List Char → Significand
  | [] => ⟨value, 0⟩
  | character :: rest =>
      if fits value (digitValue character) then
        whole (value * 10 + digitValue character) rest
      else ⟨value, (rest.length : Int) + 1⟩

def fraction (significand : Significand) : List Char → Significand
  | [] => significand
  | character :: rest =>
      if fits significand.value (digitValue character) then
        fraction
          ⟨significand.value * 10 + digitValue character,
            significand.exponent - 1⟩ rest
      else significand

end Significand

def digitsValue (digits : List Char) : Nat :=
  digits.foldl (fun value character => value * 10 + digitValue character) 0

/-- The largest exponent with a power of ten in double precision. -/
def greatestPower : Nat := 308

def powerOfTen (exponent : Nat) : Dyadic :=
  (BinaryFormat.double.round (Nat.pow 10 exponent) 1).getD ⟨0, 0⟩

def multiply (left right : Dyadic) : Option Dyadic :=
  let (leftNumerator, leftDenominator) := left.quotient
  let (rightNumerator, rightDenominator) := right.quotient
  BinaryFormat.double.round (leftNumerator * rightNumerator)
    (leftDenominator * rightDenominator)

def divideBy (left right : Dyadic) : Option Dyadic :=
  let (leftNumerator, leftDenominator) := left.quotient
  let (rightNumerator, rightDenominator) := right.quotient
  BinaryFormat.double.round (leftNumerator * rightDenominator)
    (leftDenominator * rightNumerator)

/-- Divide by the largest power of ten a number of times.  Zero stays zero. -/
def scaleDownFully : Nat → Dyadic → Option Dyadic
  | 0, value => some value
  | steps + 1, value =>
      if value.significand = 0 then some value
      else
        (divideBy value (powerOfTen greatestPower)).bind
          (scaleDownFully steps)

/-- Divide by `10 ^ exponent`, the largest power of ten at a time. -/
def scaleDown (value : Dyadic) (exponent : Nat) : Option Dyadic :=
  let steps := (exponent - 1) / greatestPower
  (scaleDownFully steps value).bind fun smaller =>
    if smaller.significand = 0 then some smaller
    else divideBy smaller (powerOfTen (exponent - steps * greatestPower))

def Significand.toDouble (significand : Significand) : Option Dyadic :=
  match BinaryFormat.double.round significand.value 1 with
  | none => none
  | some value =>
      if significand.exponent < 0 then
        scaleDown value significand.exponent.natAbs
      else if significand.exponent.toNat ≤ greatestPower then
        multiply value (powerOfTen significand.exponent.toNat)
      else if value.significand = 0 then some value
      else none

def greatestExponent : Nat := 0x7FFFFFFF

/-- Add a spelled-out exponent.  One that is too large decides by its sign
alone: the number is zero or no number. -/
def Significand.shifted (significand : Significand) (negative : Bool)
    (exponent : Nat) : Option Significand :=
  if greatestExponent < exponent then
    if significand.value ≠ 0 ∧ negative = false then none else some ⟨0, 0⟩
  else if negative then
    some ⟨significand.value, significand.exponent - (exponent : Int)⟩
  else some ⟨significand.value, significand.exponent + (exponent : Int)⟩

def readExponent (significand : Significand) (characters : List Char) :
    Option (Significand × List Char) :=
  let (negative, unsigned) :=
    match characters with
    | '+' :: rest => (false, rest)
    | '-' :: rest => (true, rest)
    | rest => (false, rest)
  match spanDigits unsigned with
  | ([], _) => none
  | (digits, rest) =>
      (significand.shifted negative (digitsValue digits)).map fun shifted =>
        (shifted, rest)

/-- A whole numeral that fits: natural, negative, or the negative zero and the
negative numbers out of range, which become double-precision numbers. -/
def wholeNumber (negative : Bool) (value : Nat) : Option Number :=
  if negative = false then some (.natural value)
  else if value ≠ 0 ∧ value ≤ 0x8000000000000000 then some (.negative value)
  else (BinaryFormat.double.round value 1).map (.double true)

def finishDouble (negative : Bool) (significand : Significand)
    (characters : List Char) : Option (Number × List Char) :=
  let read :=
    match characters with
    | 'e' :: rest => readExponent significand rest
    | 'E' :: rest => readExponent significand rest
    | rest => some (significand, rest)
  match read with
  | none => none
  | some (shifted, rest) =>
      shifted.toDouble.map fun value => (.double negative value, rest)

def readUnsigned (negative : Bool) (characters : List Char) :
    Option (Number × List Char) :=
  match spanDigits characters with
  | ([], _) => none
  | ('0' :: _ :: _, _) => none
  | (digits, rest) =>
      let whole := Significand.whole 0 digits
      match rest with
      | '.' :: behind =>
          match spanDigits behind with
          | ([], _) => none
          | (places, rest) =>
              finishDouble negative (whole.fraction places) rest
      | 'e' :: _ => finishDouble negative whole rest
      | 'E' :: _ => finishDouble negative whole rest
      | _ =>
          if whole.exponent = 0 then
            (wholeNumber negative whole.value).map fun value => (value, rest)
          else finishDouble negative whole rest

def readNumber (characters : List Char) : Option (Number × List Char) :=
  match characters with
  | '-' :: rest => readUnsigned true rest
  | rest => readUnsigned false rest

end MeterLine.Json
