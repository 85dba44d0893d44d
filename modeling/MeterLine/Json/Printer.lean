import MeterLine.Json

/-!
# Writing documents

A document is written without blanks, its fields in order.  Inside a text only
the quote, the backslash and the control characters below the blank are
escaped; all else stands for itself.
-/

namespace MeterLine.Json

def lowerHexDigit (value : Nat) : Char :=
  if value < 10 then Char.ofNat (48 + value) else Char.ofNat (87 + value)

def escapeChar (character : Char) : List Char :=
  if character = '"' then ['\\', '"']
  else if character = '\\' then ['\\', '\\']
  else if character = '\n' then ['\\', 'n']
  else if character = '\r' then ['\\', 'r']
  else if character = '\t' then ['\\', 't']
  else if character = '\x08' then ['\\', 'b']
  else if character = '\x0c' then ['\\', 'f']
  else if character.toNat < 32 then
    ['\\', 'u', '0', '0', lowerHexDigit (character.toNat / 16),
      lowerHexDigit (character.toNat % 16)]
  else [character]

def textChars (text : String) : List Char :=
  '"' :: text.toList.flatMap escapeChar ++ ['"']

/-- The double-precision layout agrees with the one for measurements. -/
def doubleChars (negative : Bool) (value : Dyadic) : List Char :=
  let sign := if negative then ['-'] else []
  if value.significand = 0 then sign ++ Single.document.zeroChars
  else
    sign ++ Single.document.chars
      (Shortest.decimal Single.document.tie BinaryFormat.double value)

/-- A measurement; one that is not finite has no number and is written as the
absent value. -/
def singleChars (value : Single) : List Char :=
  match value.magnitude with
  | .finite dyadic =>
      Single.finiteChars Single.document value.negative dyadic
  | _ => "null".toList

def Number.chars : Number → List Char
  | .natural value => Nat.toDigits 10 value
  | .negative magnitude => '-' :: Nat.toDigits 10 magnitude
  | .double below value => doubleChars below value
  | .single value => singleChars value

mutual

def chars : Json → List Char
  | .null => "null".toList
  | .bool true => "true".toList
  | .bool false => "false".toList
  | .number value => value.chars
  | .text value => textChars value
  | .list [] => ['[', ']']
  | .list (item :: items) => '[' :: chars item ++ itemsChars items
  | .record [] => ['\x7b', '\x7d']
  | .record ((name, value) :: fields) =>
      '\x7b' :: textChars name ++ ':' :: chars value ++ fieldsChars fields

def itemsChars : List Json → List Char
  | [] => [']']
  | item :: items => ',' :: chars item ++ itemsChars items

def fieldsChars : List (String × Json) → List Char
  | [] => ['\x7d']
  | (name, value) :: fields =>
      ',' :: textChars name ++ ':' :: chars value ++ fieldsChars fields

end

def render (document : Json) : String :=
  String.ofList document.chars

end MeterLine.Json
