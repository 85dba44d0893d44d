import MeterLine.Number.Single

/-!
# Documents

Settings, health reports and readings are stored as JSON documents.  A number
of a document is a natural number below `2 ^ 64`, the negative of a positive
number up to `2 ^ 63`, or a double-precision number; a measurement is a number
that is written with the fewest digits that single precision needs.

A record keeps its fields in the order in which they were put.  Putting a name
again replaces the earlier field.
-/

namespace MeterLine

inductive Json.Number where
  | natural (value : Nat)
  | negative (magnitude : Nat)
  | double (negative : Bool) (value : Dyadic)
  | single (value : Single)
  deriving Repr, DecidableEq, Inhabited

/-- A document. -/
inductive Json where
  | null
  | bool (value : Bool)
  | number (value : Json.Number)
  | text (value : String)
  | list (items : List Json)
  | record (fields : List (String × Json))
  deriving Repr, Inhabited

namespace Json

abbrev Field := String × Json

def lookup (name : String) : List Field → Option Json
  | [] => none
  | field :: fields =>
      if field.1 = name then some field.2 else lookup name fields

/-- Put a field after the others, or in place of one with the same name. -/
def put (name : String) (value : Json) : List Field → List Field
  | [] => [(name, value)]
  | field :: fields =>
      if field.1 = name then (name, value) :: fields
      else field :: put name value fields

theorem lookup_put (name : String) (value : Json) (fields : List Field) :
    lookup name (put name value fields) = some value := by
  induction fields with
  | nil => simp [put, lookup]
  | cons field fields induction =>
      by_cases same : field.1 = name <;> simp [put, lookup, same, induction]

def natural (value : Nat) : Json :=
  .number (.natural value)

/-- The field of a record; `none` also for anything that is not a record. -/
def field? (name : String) : Json → Option Json
  | .record fields => lookup name fields
  | _ => none

end Json

end MeterLine
