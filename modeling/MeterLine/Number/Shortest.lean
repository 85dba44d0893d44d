import MeterLine.Number.Binary

/-!
# The fewest digits that read back

All real numbers that round to a given binary number form an interval.  The
decimal form of the number is the one with the fewest digits inside that
interval, and among those the one closest to the number itself.  The ends of
the interval belong to it exactly when the significand is even, because a tie
is rounded to the even neighbour.  When the number lies in the middle between
two decimal forms of equally few digits, the format at hand chooses between
them.

For a fixed count of digits only the two neighbours of the number on the
decimal grid have to be tried: when any point of the grid lies in the interval,
one of these two does.
-/

namespace MeterLine

/-- The number `digits * 10 ^ exponent`. -/
structure Decimal where
  digits : Nat
  exponent : Int
  deriving Repr, DecidableEq, Inhabited

namespace Decimal

def quotient (number : Decimal) : Nat × Nat :=
  (number.digits * Nat.pow 10 number.exponent.toNat,
    Nat.pow 10 (-number.exponent).toNat)

def digitChars (number : Decimal) : List Char :=
  Nat.toDigits 10 number.digits

/-- The position of the decimal point, counted from before the first digit. -/
def pointPosition (number : Decimal) : Int :=
  (number.digitChars.length : Int) + number.exponent

def strip (fuel : Nat) (number : Decimal) : Decimal :=
  match fuel with
  | 0 => number
  | fuel + 1 =>
      if number.digits ≠ 0 ∧ number.digits % 10 = 0 then
        strip fuel ⟨number.digits / 10, number.exponent + 1⟩
      else number

end Decimal

/-- The reals that round to one binary number, counted in quarters of the unit
`2 ^ exponent`. -/
structure RoundingInterval where
  lower : Nat
  upper : Nat
  exponent : Int
  closed : Bool
  deriving Repr, DecidableEq

namespace RoundingInterval

/-- The interval of a number of a format.  Below a power of two the neighbours
are half as far away as above it. -/
def of (format : BinaryFormat) (number : Dyadic) : RoundingInterval :=
  let narrow : Bool :=
    number.significand = Nat.pow 2 (format.precision - 1) ∧
      format.least < number.exponent
  { lower := 4 * number.significand - (if narrow then 1 else 2)
    upper := 4 * number.significand + 2
    exponent := number.exponent - 2
    closed := number.significand % 2 = 0 }

def contains (interval : RoundingInterval) (number : Decimal) : Bool :=
  let (numerator, denominator) := number.quotient
  let (scaled, unit) :=
    BinaryFormat.inUnits numerator denominator interval.exponent
  if interval.closed then
    interval.lower * unit ≤ scaled ∧ scaled ≤ interval.upper * unit
  else interval.lower * unit < scaled ∧ scaled < interval.upper * unit

end RoundingInterval

/-- Which of two equally close decimal numbers is taken. -/
inductive Tie where
  | up
  | even
  deriving Repr, DecidableEq, Inhabited

namespace Shortest

/-- The number of decimal places of a quotient before its point; zero or
negative when the quotient is below one.  Quotients down to `10 ^ (-reach)` are
told apart. -/
def places (reach numerator denominator : Nat) : Int :=
  ((Nat.toDigits 10 (numerator * Nat.pow 10 reach / denominator)).length : Int) -
    (reach : Int)

/-- Whether the lower of two neighbours is taken, given the lower one and how
far the quotient is above it in fractions of a unit. -/
def takesLower (tie : Tie) (floor rest unit : Nat) : Bool :=
  if 2 * rest < unit then true
  else if unit < 2 * rest then false
  else
    match tie with
    | .up => false
    | .even => floor % 2 = 0

/-- The closest decimal number on the grid of multiples of `10 ^ exponent` that
lies in the interval. -/
def onGrid (tie : Tie) (interval : RoundingInterval)
    (numerator denominator : Nat) (exponent : Int) : Option Decimal :=
  let scaled := numerator * Nat.pow 10 (-exponent).toNat
  let unit := denominator * Nat.pow 10 exponent.toNat
  let floor := scaled / unit
  let below : Decimal := ⟨floor, exponent⟩
  let above : Decimal := ⟨floor + 1, exponent⟩
  match interval.contains below, interval.contains above with
  | true, true =>
      some (if takesLower tie floor (scaled % unit) unit then below else above)
  | true, false => some below
  | false, true => some above
  | false, false => none

def search (tie : Tie) (interval : RoundingInterval)
    (numerator denominator : Nat) (point : Int) : Nat → Nat → Decimal
  | 0, count => ⟨numerator, (count : Int)⟩
  | fuel + 1, count =>
      match onGrid tie interval numerator denominator
          (point - (count : Int)) with
      | some number => number.strip (count + 1)
      | none => search tie interval numerator denominator point fuel (count + 1)

/-- Decimal digits that always suffice to tell numbers of a format apart. -/
def enough (format : BinaryFormat) : Nat :=
  format.precision * 30103 / 100000 + 2

def decimal (tie : Tie) (format : BinaryFormat) (number : Dyadic) :
    Decimal :=
  let (numerator, denominator) := number.quotient
  let point := places (-format.least).toNat numerator denominator
  search tie (RoundingInterval.of format number) numerator denominator point
    (enough format) 1

end Shortest

end MeterLine
