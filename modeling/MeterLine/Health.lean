import MeterLine.Json.Decode

/-!
# Health reports

A report has a status and details: texts by name, in ascending order of the
names.  The order is part of the type, so that two reports with the same
details are equal.  Reports are combined by taking the worst status and listing
the status of each part.
-/

namespace MeterLine

/-- The status of a port, a device or a whole adapter. -/
inductive HealthStatus where
  | up
  | down
  /-- Not disposed of but unusable for now; the port will be opened again. -/
  | outOfService
  deriving Repr, DecidableEq, Inhabited

namespace HealthStatus

def key : HealthStatus → String
  | .up => "UP"
  | .down => "DOWN"
  | .outOfService => "OUT_OF_SERVICE"

def all : List HealthStatus :=
  [.up, .down, .outOfService]

def ofKey? (key : String) : Option HealthStatus :=
  all.find? fun status => status.key == key

theorem ofKey?_key (status : HealthStatus) :
    ofKey? status.key = some status := by
  cases status <;> rfl

/-- The worse of two statuses: nothing is worse than being down, and being out
of service is worse than being up. -/
def worse : HealthStatus → HealthStatus → HealthStatus
  | .down, _ | _, .down => .down
  | .outOfService, _ | _, .outOfService => .outOfService
  | .up, .up => .up

end HealthStatus

abbrev DetailEntries := List (String × String)

namespace DetailEntries

def insert (name text : String) : DetailEntries → DetailEntries
  | [] => [(name, text)]
  | entry :: entries =>
      if name < entry.1 then (name, text) :: entry :: entries
      else if name = entry.1 then (name, text) :: entries
      else entry :: insert name text entries

theorem mem_insert {name text : String} {entries : DetailEntries}
    {entry : String × String} (member : entry ∈ insert name text entries) :
    entry = (name, text) ∨ entry ∈ entries := by
  induction entries with
  | nil => simpa [insert] using member
  | cons head tail induction =>
      unfold insert at member
      split at member
      · simpa using member
      · split at member
        · rcases List.mem_cons.mp member with first | later
          · exact .inl first
          · exact .inr (List.mem_cons_of_mem _ later)
        · rcases List.mem_cons.mp member with first | later
          · exact .inr (first ▸ List.mem_cons_self)
          · rcases induction later with new | old
            · exact .inl new
            · exact .inr (List.mem_cons_of_mem _ old)

theorem pairwise_insert {name text : String} {entries : DetailEntries}
    (sorted : entries.Pairwise fun left right => left.1 < right.1) :
    (insert name text entries).Pairwise
      fun left right => left.1 < right.1 := by
  induction entries with
  | nil => simp [insert]
  | cons head tail induction =>
      have headFirst := (List.pairwise_cons.mp sorted).1
      have tailSorted := (List.pairwise_cons.mp sorted).2
      unfold insert
      split
      · rename_i before
        refine List.pairwise_cons.mpr ⟨?_, sorted⟩
        intro entry member
        rcases List.mem_cons.mp member with first | later
        · exact first ▸ before
        · exact String.lt_trans before (headFirst entry later)
      · rename_i notBefore
        split
        · rename_i same
          refine List.pairwise_cons.mpr ⟨?_, tailSorted⟩
          intro entry member
          exact same ▸ headFirst entry member
        · rename_i different
          refine List.pairwise_cons.mpr ⟨?_, induction tailSorted⟩
          intro entry member
          rcases mem_insert member with new | old
          · subst new
            have notAfter : head.1 ≤ name := String.not_lt.mp notBefore
            rcases Decidable.em (head.1 < name) with less | notLess
            · exact less
            · exact absurd
                (String.le_antisymm (String.not_lt.mp notLess) notAfter)
                different
          · exact headFirst entry old

end DetailEntries

/-- Details of a report, in ascending order of their names. -/
structure Details where
  entries : DetailEntries
  sorted : entries.Pairwise fun left right => left.1 < right.1
  deriving DecidableEq

namespace Details

theorem nodup_names (details : Details) :
    (details.entries.map Prod.fst).Nodup :=
  List.pairwise_map.mpr (details.sorted.imp String.ne_of_lt)

def empty : Details :=
  { entries := []
    sorted := .nil }

def insert (name text : String) (details : Details) : Details :=
  { entries := details.entries.insert name text
    sorted := DetailEntries.pairwise_insert details.sorted }

def get? (details : Details) (name : String) : Option String :=
  (details.entries.find? fun entry => entry.1 == name).map (·.2)

/-- Details from the fields of a record; a later field replaces an earlier one
of the same name. -/
def ofFields? (fields : List Json.Field) : Option Details :=
  fields.foldlM
    (fun details field => do
      let text ← Json.text? field.2
      some (details.insert field.1 text)) empty

end Details

/-- A health report. -/
structure Health where
  status : HealthStatus
  details : Details
  deriving DecidableEq

namespace Health

def plain (status : HealthStatus) : Health :=
  { status := status
    details := Details.empty }

def up : Health := plain .up

def down : Health := plain .down

def outOfService : Health := plain .outOfService

def withDetail (health : Health) (name text : String) : Health :=
  { health with details := health.details.insert name text }

def isUp (health : Health) : Bool :=
  health.status == .up

def aggregate (parts : List (String × Health)) : Health :=
  parts.foldl
    (fun whole part =>
      { status := whole.status.worse part.2.status
        details := whole.details.insert part.1 part.2.status.key }) up

def toJson (health : Health) : Json :=
  let status := ("status", Json.text health.status.key)
  match health.details.entries with
  | [] => .record [status]
  | entries =>
      .record [status, ("details",
        .record (entries.map fun entry => (entry.1, .text entry.2)))]

def detailsOfJson? : Json → Option Details
  | .record fields => Details.ofFields? fields
  | _ => none

def ofJson? (document : Json) : Option Health := do
  let parts ← Json.parts? ["status", "details"] document
  match parts with
  | [status, details] =>
      let status ← Json.required? (Json.choice? HealthStatus.ofKey?) status
      let details ← Json.optional? Details.empty detailsOfJson? details
      some
        { status := status
          details := details }
  | _ => none

end Health

end MeterLine
