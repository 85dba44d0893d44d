import MeterLine.Json

/-!
# Taking documents apart

A record of settings may be written as a record or as the list of its parts in
order.  In a record unknown names are passed over; in a list nothing may follow
the last part.  A choice is written as its name, or as a record whose only
field has that name and no value.  Whole numbers have no point and no exponent.
-/

namespace MeterLine.Json

def text? : Json → Option String
  | .text value => some value
  | _ => none

/-- A whole number from zero to a limit. -/
def naturalUpTo? (limit : Nat) : Json → Option Nat
  | .number (.natural value) => if value ≤ limit then some value else none
  | _ => none

def choice? (read : String → Option α) : Json → Option α
  | .text name => read name
  | .record [(name, .null)] => read name
  | _ => none

def listOf? (read : Json → Option α) : Json → Option (List α)
  | .list items => items.mapM read
  | _ => none

/-- The parts of a record that have names, in the order of the names. -/
def parts? (names : List String) : Json → Option (List (Option Json))
  | .record fields => some (names.map fun name => lookup name fields)
  | .list items =>
      if items.length ≤ names.length then
        some (items.map some ++
          List.replicate (names.length - items.length) none)
      else none
  | _ => none

def required? (read : Json → Option α) : Option Json → Option α
  | some part => read part
  | none => none

/-- A part that has a value of its own when it is left out. -/
def optional? (fallback : α) (read : Json → Option α) :
    Option Json → Option α
  | some part => read part
  | none => some fallback

end MeterLine.Json
