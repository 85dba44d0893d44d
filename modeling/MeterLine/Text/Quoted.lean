import MeterLine.Text.Unprinted

/-!
# Quoted texts

Diagnostics put names between double quotes.  A quote, a backslash and the
common controls have escapes of their own; a character without a printed form
is spelled by its code point, in lower-case hexadecimal between braces.  A
single quote stands for itself.
-/

namespace MeterLine.Quoted

def codeChars (character : Char) : List Char :=
  '\\' :: 'u' :: '\x7b' :: Nat.toDigits 16 character.toNat ++ ['\x7d']

def escapeChar (character : Char) : List Char :=
  if character = '"' then ['\\', '"']
  else if character = '\\' then ['\\', '\\']
  else if character = '\n' then ['\\', 'n']
  else if character = '\r' then ['\\', 'r']
  else if character = '\t' then ['\\', 't']
  else if character = '\x00' then ['\\', '0']
  else if isUnprinted character then codeChars character
  else [character]

def quote (text : String) : String :=
  String.ofList ('"' :: text.toList.flatMap escapeChar ++ ['"'])

end MeterLine.Quoted
