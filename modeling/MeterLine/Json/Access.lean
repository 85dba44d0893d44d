import MeterLine.Json

/-!
# Looking into documents

Total accessors: whatever is missing or of another shape is given by a
fallback.
-/

namespace MeterLine.Json

/-- The field of a name, or null. -/
def get (document : Json) (name : String) : Json :=
  (document.field? name).getD .null

def has (document : Json) (name : String) : Bool :=
  (document.field? name).isSome

def items : Json → List Json
  | .list items => items
  | _ => []

def itemsOf (document : Json) (name : String) : List Json :=
  (document.get name).items

def stringOr (fallback : String) : Json → String
  | .text value => value
  | _ => fallback

def string (document : Json) (name : String) : String :=
  (document.get name).stringOr ""

def nat? : Json → Option Nat
  | .number (.natural value) => some value
  | _ => none

def natOr (fallback : Nat) (document : Json) : Nat :=
  document.nat?.getD fallback

def nat (document : Json) (name : String) : Nat :=
  (document.get name).natOr 0

def flagOr (fallback : Bool) : Json → Bool
  | .bool value => value
  | _ => fallback

def flag (document : Json) (name : String) : Bool :=
  (document.get name).flagOr false

end MeterLine.Json
