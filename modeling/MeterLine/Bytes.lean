/-!
# Octet strings and hexadecimal text

Frames are lists of octets.  Diagnostics show them as upper-case pairs with a
single blank in between, so that a dump of `n > 0` octets is `3 * n - 1`
characters long.  Compact text has lower-case pairs with nothing in between.
-/

namespace MeterLine

abbrev Bytes := List UInt8

def hexDigit (value : Nat) : Char :=
  if value < 10 then Char.ofNat (48 + value) else Char.ofNat (55 + value)

def hexValue? (character : Char) : Option Nat :=
  let code := character.toNat
  if 48 ≤ code ∧ code ≤ 57 then some (code - 48)
  else if 97 ≤ code ∧ code ≤ 102 then some (code - 87)
  else if 65 ≤ code ∧ code ≤ 70 then some (code - 55)
  else none

/-- A number in lower-case hexadecimal digits, at least `width` of them. -/
def hexText (width value : Nat) : String :=
  let digits := Nat.toDigits 16 value
  String.ofList (List.replicate (width - digits.length) '0' ++ digits)

def hexNumber (text : String) : Nat :=
  text.toList.foldl
    (fun value character => value * 16 + (hexValue? character).getD 0) 0

def hexPair (octet : UInt8) : List Char :=
  [hexDigit (octet.toNat / 16), hexDigit (octet.toNat % 16)]

namespace Bytes

def dumpChars : Bytes → List Char
  | [] => []
  | [octet] => hexPair octet
  | octet :: next :: rest => hexPair octet ++ ' ' :: dumpChars (next :: rest)

def dump (octets : Bytes) : String :=
  String.ofList octets.dumpChars

def compact (octets : Bytes) : String :=
  String.join (octets.map fun octet => hexText 2 octet.toNat)

def ofPairs : List Char → Bytes
  | high :: low :: rest =>
      UInt8.ofNat
        ((hexValue? high).getD 0 * 16 + (hexValue? low).getD 0) ::
        ofPairs rest
  | _ => []

def ofCompact (text : String) : Bytes :=
  ofPairs text.toList

/-- Replace the octet at `index`; an index past the end changes nothing. -/
def write (octets : Bytes) (index : Nat) (octet : UInt8) : Bytes :=
  octets.set index octet

@[simp] theorem length_write (octets : Bytes) (index : Nat) (octet : UInt8) :
    (octets.write index octet).length = octets.length := by
  simp [write]

end Bytes

end MeterLine
