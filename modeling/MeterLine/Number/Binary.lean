/-!
# Rounding to binary formats

A positive quotient of natural numbers is rounded to the nearest number of a
binary floating-point format; a tie goes to the even significand.  The result
is exact arithmetic on natural numbers throughout, so that statements about it
are statements about `Nat` and `Int`.
-/

namespace MeterLine

/-- The number `significand * 2 ^ exponent`. -/
structure Dyadic where
  significand : Nat
  exponent : Int
  deriving Repr, DecidableEq, Inhabited

def Dyadic.quotient (number : Dyadic) : Nat × Nat :=
  (number.significand * Nat.pow 2 number.exponent.toNat,
    Nat.pow 2 (-number.exponent).toNat)

/-- A binary floating-point format.  `least` is the exponent of the unit of
its smallest numbers, `greatest` the exponent of the unit of its largest. -/
structure BinaryFormat where
  precision : Nat
  least : Int
  greatest : Int
  deriving Repr, DecidableEq

namespace BinaryFormat

def single : BinaryFormat :=
  { precision := 24
    least := -149
    greatest := 104 }

def double : BinaryFormat :=
  { precision := 53
    least := -1074
    greatest := 971 }

/-- The nearest natural number to a quotient, a tie going to the even one. -/
def nearest (numerator denominator : Nat) : Nat :=
  let floor := numerator / denominator
  let rest := 2 * (numerator % denominator)
  if rest < denominator then floor
  else if denominator < rest then floor + 1
  else if floor % 2 = 0 then floor
  else floor + 1

def inUnits (numerator denominator : Nat) (exponent : Int) : Nat × Nat :=
  (numerator * Nat.pow 2 (-exponent).toNat,
    denominator * Nat.pow 2 exponent.toNat)

/-- The exponent of the last place that a positive quotient has in a format. -/
def lastPlace (format : BinaryFormat) (numerator denominator : Nat) : Int :=
  let estimate : Int :=
    (numerator.log2 : Int) - (denominator.log2 : Int) - (format.precision : Int)
  let (scaled, unit) := inUnits numerator denominator estimate
  let exponent :=
    if unit * Nat.pow 2 format.precision ≤ scaled then estimate + 1 else estimate
  max exponent format.least

/-- Round a quotient to a format; `none` stands for a result beyond the
largest number. -/
def round (format : BinaryFormat) (numerator denominator : Nat) :
    Option Dyadic :=
  if numerator = 0 then some ⟨0, format.least⟩
  else
    let exponent := format.lastPlace numerator denominator
    let (scaled, unit) := inUnits numerator denominator exponent
    let significand := nearest scaled unit
    let rounded : Dyadic :=
      if significand = Nat.pow 2 format.precision then
        ⟨Nat.pow 2 (format.precision - 1), exponent + 1⟩
      else ⟨significand, exponent⟩
    if format.greatest < rounded.exponent then none else some rounded

/-- The bit pattern of a number that `round` produced, without its sign. -/
def encode (format : BinaryFormat) (number : Dyadic) : Nat :=
  let hidden := Nat.pow 2 (format.precision - 1)
  if number.significand < hidden then number.significand
  else
    (number.exponent - format.least + 1).toNat * hidden +
      (number.significand - hidden)

def infinity (format : BinaryFormat) : Nat :=
  (format.greatest - format.least + 2).toNat * Nat.pow 2 (format.precision - 1)

def decode (format : BinaryFormat) (bits : Nat) : Dyadic :=
  let hidden := Nat.pow 2 (format.precision - 1)
  let field := bits / hidden
  let fraction := bits % hidden
  if field = 0 then ⟨fraction, format.least⟩
  else ⟨fraction + hidden, format.least + (field : Int) - 1⟩

end BinaryFormat

end MeterLine
