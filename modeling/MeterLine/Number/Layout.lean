import MeterLine.Number.Shortest

/-!
# Writing decimal numbers

A `Layout` collects the decisions of one output format: which of two equally
close decimal forms is written, for which magnitudes digits are written around
a plain point, whether whole numbers keep a point, and what an exponent looks
like.  The digits themselves come from
`Shortest.decimal`.
-/

namespace MeterLine

/-- The decisions of one number format.  The point position of a number is
counted from before its first digit; `plainFrom` and `plainTo` bound the
positions that are written without an exponent, and `none` sets no bound. -/
structure Layout where
  tie : Tie
  plainFrom : Option Int
  plainTo : Option Int
  wholePoint : Bool
  exponentPlus : Bool
  deriving Repr, DecidableEq

namespace Layout

def isPlain (layout : Layout) (point : Int) : Bool :=
  (match layout.plainFrom with
    | none => true
    | some low => low ≤ point) &&
  (match layout.plainTo with
    | none => true
    | some high => point ≤ high)

def plainChars (layout : Layout) (number : Decimal) : List Char :=
  let digits := number.digitChars
  let point := number.pointPosition
  if 0 ≤ number.exponent then
    digits ++ List.replicate number.exponent.toNat '0' ++
      (if layout.wholePoint then ['.', '0'] else [])
  else if 0 < point then
    digits.take point.toNat ++ '.' :: digits.drop point.toNat
  else '0' :: '.' :: List.replicate (-point).toNat '0' ++ digits

/-- The digits with an exponent: one digit before the point, and a point only
when more digits follow. -/
def scaledChars (layout : Layout) (number : Decimal) : List Char :=
  let exponent := number.pointPosition - 1
  let mantissa :=
    match number.digitChars with
    | [] => []
    | [digit] => [digit]
    | digit :: rest => digit :: '.' :: rest
  let sign :=
    if exponent < 0 then ['-'] else if layout.exponentPlus then ['+'] else []
  mantissa ++ 'e' :: sign ++ Nat.toDigits 10 exponent.natAbs

def chars (layout : Layout) (number : Decimal) : List Char :=
  if layout.isPlain number.pointPosition then layout.plainChars number
  else layout.scaledChars number

def zeroChars (layout : Layout) : List Char :=
  if layout.wholePoint then ['0', '.', '0'] else ['0']

end Layout

end MeterLine
