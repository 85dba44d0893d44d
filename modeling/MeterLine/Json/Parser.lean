import MeterLine.Bytes
import MeterLine.Json.Numeral

/-!
# Reading documents

The reader takes one document with optional blanks around every part of it and
nothing behind it.  Its fuel bounds the depth and the number of parts; the
length of the text is always enough, so `parse` shows none.
-/

namespace MeterLine.Json

def isSpace (character : Char) : Bool :=
  character = ' ' || character = '\n' || character = '\t' || character = '\r'

def skipSpace (characters : List Char) : List Char :=
  characters.dropWhile isSpace

def readHex : List Char → Option (Nat × List Char)
  | first :: second :: third :: fourth :: rest => do
      let first ← hexValue? first
      let second ← hexValue? second
      let third ← hexValue? third
      let fourth ← hexValue? fourth
      some (((first * 16 + second) * 16 + third) * 16 + fourth, rest)
  | _ => none

def isHighUnit (code : Nat) : Bool :=
  0xD800 ≤ code && code ≤ 0xDBFF

def isLowUnit (code : Nat) : Bool :=
  0xDC00 ≤ code && code ≤ 0xDFFF

/-- The character of an escape by code, after its mark.  The two halves of a
pair must stand next to each other. -/
def readCode (characters : List Char) : Option (Char × List Char) :=
  match readHex characters with
  | none => none
  | some (code, rest) =>
      if isHighUnit code then
        match rest with
        | '\\' :: 'u' :: rest =>
            match readHex rest with
            | none => none
            | some (low, rest) =>
                if isLowUnit low then
                  some (Char.ofNat
                    (0x10000 + (code - 0xD800) * 0x400 + (low - 0xDC00)), rest)
                else none
        | _ => none
      else if isLowUnit code then none
      else some (Char.ofNat code, rest)

def readEscape : List Char → Option (Char × List Char)
  | '"' :: rest => some ('"', rest)
  | '\\' :: rest => some ('\\', rest)
  | '/' :: rest => some ('/', rest)
  | 'b' :: rest => some ('\x08', rest)
  | 'f' :: rest => some ('\x0c', rest)
  | 'n' :: rest => some ('\n', rest)
  | 'r' :: rest => some ('\r', rest)
  | 't' :: rest => some ('\t', rest)
  | 'u' :: rest => readCode rest
  | _ => none

/-- The characters of a text after its opening quote, up to the closing one.
Control characters must be escaped. -/
def readChars : Nat → List Char → Option (List Char × List Char)
  | 0, _ => none
  | _ + 1, [] => none
  | fuel + 1, character :: rest =>
      if character = '"' then some ([], rest)
      else if character = '\\' then
        match readEscape rest with
        | none => none
        | some (escaped, rest) =>
            (readChars fuel rest).map fun read => (escaped :: read.1, read.2)
      else if character.toNat < 32 then none
      else (readChars fuel rest).map fun read => (character :: read.1, read.2)

def readText (characters : List Char) : Option (String × List Char) :=
  (readChars (characters.length + 1) characters).map fun read =>
    (String.ofList read.1, read.2)

def readWord (word : List Char) (value : Json) (characters : List Char) :
    Option (Json × List Char) :=
  if word.isPrefixOf characters then
    some (value, characters.drop word.length)
  else none

mutual

def readValue : Nat → List Char → Option (Json × List Char)
  | 0, _ => none
  | fuel + 1, characters =>
      match characters with
      | '"' :: rest => (readText rest).map fun read => (.text read.1, read.2)
      | '[' :: rest =>
          match skipSpace rest with
          | ']' :: rest => some (.list [], rest)
          | rest =>
              match readValue fuel rest with
              | none => none
              | some (item, rest) =>
                  (readItems fuel (skipSpace rest)).map fun read =>
                    (.list (item :: read.1), read.2)
      | '\x7b' :: rest =>
          match skipSpace rest with
          | '\x7d' :: rest => some (.record [], rest)
          | rest =>
              match readField fuel rest with
              | none => none
              | some (field, rest) =>
                  (readFields fuel [field] (skipSpace rest)).map fun read =>
                    (.record read.1, read.2)
      | 'n' :: _ => readWord "null".toList .null characters
      | 't' :: _ => readWord "true".toList (.bool true) characters
      | 'f' :: _ => readWord "false".toList (.bool false) characters
      | _ => (readNumber characters).map fun read => (.number read.1, read.2)

def readItems : Nat → List Char → Option (List Json × List Char)
  | 0, _ => none
  | fuel + 1, characters =>
      match characters with
      | ']' :: rest => some ([], rest)
      | ',' :: rest =>
          match readValue fuel (skipSpace rest) with
          | none => none
          | some (item, rest) =>
              (readItems fuel (skipSpace rest)).map fun read =>
                (item :: read.1, read.2)
      | _ => none

def readField : Nat → List Char → Option (Field × List Char)
  | 0, _ => none
  | fuel + 1, characters =>
      match characters with
      | '"' :: rest =>
          match readText rest with
          | none => none
          | some (name, rest) =>
              match skipSpace rest with
              | ':' :: rest =>
                  (readValue fuel (skipSpace rest)).map fun read =>
                    ((name, read.1), read.2)
              | _ => none
      | _ => none

def readFields : Nat → List Field → List Char →
    Option (List Field × List Char)
  | 0, _, _ => none
  | fuel + 1, fields, characters =>
      match characters with
      | '\x7d' :: rest => some (fields, rest)
      | ',' :: rest =>
          match readField fuel (skipSpace rest) with
          | none => none
          | some (field, rest) =>
              readFields fuel (put field.1 field.2 fields) (skipSpace rest)
      | _ => none

end

def parseChars (characters : List Char) : Option Json :=
  match readValue (2 * characters.length + 2) (skipSpace characters) with
  | some (document, rest) =>
      if (skipSpace rest).isEmpty then some document else none
  | none => none

def parse (text : String) : Option Json :=
  parseChars text.toList

end MeterLine.Json
