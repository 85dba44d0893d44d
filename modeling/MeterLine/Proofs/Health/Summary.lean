import MeterLine.Proofs.Registry.Startup

/-!
# Reports of several parts

Reports are combined part by part: the worse of two statuses is kept, and the
name of the part is put among the details.  What results does not depend on the
order of the parts.  The status is the worst one in a list, which is the same
for all arrangements of the list, and the details are kept in the order of
their names.
-/

namespace MeterLine

namespace HealthStatus

def severity : HealthStatus → Nat
  | .up => 0
  | .outOfService => 1
  | .down => 2

theorem severity_injective {left right : HealthStatus}
    (same : left.severity = right.severity) : left = right := by
  cases left <;> cases right <;> simp [severity] at same <;> rfl

theorem severity_worse (left right : HealthStatus) :
    (left.worse right).severity = max left.severity right.severity := by
  cases left <;> cases right <;> rfl

theorem worse_eq (left right : HealthStatus) :
    left.worse right = left ∨ left.worse right = right := by
  cases left <;> cases right <;> simp [worse]

/-- One of several statuses, such that none of them is worse. -/
structure WorstOf (statuses : List HealthStatus)
    (worst : HealthStatus) : Prop where
  mem : worst ∈ statuses
  bound : ∀ status ∈ statuses, status.severity ≤ worst.severity

namespace WorstOf

variable {statuses others : List HealthStatus} {left right : HealthStatus}

theorem unique (first : WorstOf statuses left)
    (second : WorstOf statuses right) : left = right := by
  apply severity_injective
  exact Nat.le_antisymm (second.bound left first.mem)
    (first.bound right second.mem)

theorem perm (worst : WorstOf statuses left)
    (arranged : others.Perm statuses) : WorstOf others left where
  mem := arranged.mem_iff.mpr worst.mem
  bound := fun status member =>
    worst.bound status (arranged.mem_iff.mp member)

theorem mem_of_ne_nil (worst : WorstOf (.up :: statuses) left)
    (given : statuses ≠ []) : left ∈ statuses := by
  rcases List.mem_cons.mp worst.mem with rfl | member
  · obtain ⟨status, member⟩ := List.exists_mem_of_ne_nil statuses given
    have least := worst.bound status (List.mem_cons_of_mem _ member)
    have same : status = .up :=
      severity_injective (Nat.le_antisymm least (Nat.zero_le _))
    exact same ▸ member
  · exact member

end WorstOf

theorem worstOf_foldl (first : HealthStatus) (later : List HealthStatus) :
    WorstOf (first :: later) (later.foldl worse first) := by
  induction later generalizing first with
  | nil => exact ⟨List.mem_cons_self, by simp⟩
  | cons second later induction =>
      obtain ⟨member, bound⟩ := induction (first.worse second)
      have kept := severity_worse first second
      have reached := bound _ List.mem_cons_self
      rw [List.foldl_cons]
      refine ⟨?member, ?bound⟩
      case member =>
        rcases List.mem_cons.mp member with worst | behind
        · rw [worst]
          rcases worse_eq first second with left | right
          · simp [left]
          · simp [right]
        · exact List.mem_cons_of_mem _ (List.mem_cons_of_mem _ behind)
      case bound =>
        intro status given
        rcases List.mem_cons.mp given with rfl | given
        · omega
        · rcases List.mem_cons.mp given with rfl | behind
          · omega
          · exact bound status (List.mem_cons_of_mem _ behind)

end HealthStatus

theorem DetailEntries.perm_insert {name text : String}
    {entries : DetailEntries} (new : name ∉ entries.map Prod.fst) :
    (insert name text entries).Perm ((name, text) :: entries) := by
  induction entries with
  | nil => exact .refl _
  | cons entry entries induction =>
      rw [List.map_cons, List.mem_cons, not_or] at new
      unfold insert
      split
      · exact .refl _
      · rw [if_neg new.1]
        exact ((induction new.2).cons entry).trans (.swap _ _ _)

namespace Details

theorem eq_of_perm {left right : Details}
    (same : left.entries.Perm right.entries) : left = right := by
  obtain ⟨entries, sorted⟩ := left
  obtain ⟨others, otherSorted⟩ := right
  have equal : entries = others := by
    refine List.Perm.eq_of_pairwise ?_ sorted otherSorted same
    intro first second _ _ before behind
    exact absurd behind (String.lt_asymm before)
  subst equal
  rfl

theorem get?_of_mem {details : Details} {name text : String}
    (member : (name, text) ∈ details.entries) :
    details.get? name = some text := by
  rw [get?, Registry.find?_of_distinct details.nodup_names member]
  rfl

end Details

namespace Health

def join (whole : Health) (part : String × Health) : Health :=
  { status := whole.status.worse part.2.status
    details := whole.details.insert part.1 part.2.status.key }

/-- What a report of several parts tells of one of them. -/
def summary (part : String × Health) : String × String :=
  (part.1, part.2.status.key)

theorem aggregate_eq (parts : List (String × Health)) :
    aggregate parts = parts.foldl join up :=
  rfl

theorem status_foldl_join (whole : Health) (parts : List (String × Health)) :
    (parts.foldl join whole).status =
      (parts.map (·.2.status)).foldl HealthStatus.worse whole.status := by
  induction parts generalizing whole with
  | nil => rfl
  | cons part parts induction => exact induction (whole.join part)

/-- Parts of different new names add one detail each. -/
theorem perm_foldl_join {whole : Health} {parts : List (String × Health)}
    (distinct : (parts.map Prod.fst).Nodup)
    (new : ∀ part ∈ parts, part.1 ∉ whole.details.entries.map Prod.fst) :
    (parts.foldl join whole).details.entries.Perm
      (parts.map summary ++ whole.details.entries) := by
  induction parts generalizing whole with
  | nil => exact .refl _
  | cons part parts induction =>
      obtain ⟨apart, distinct⟩ := List.nodup_cons.mp distinct
      obtain ⟨first, later⟩ := List.forall_mem_cons.mp new
      have joined : (whole.join part).details.entries.Perm
          (summary part :: whole.details.entries) :=
        DetailEntries.perm_insert first
      have unused : ∀ other ∈ parts,
          other.1 ∉ (whole.join part).details.entries.map Prod.fst := by
        intro other member used
        rw [(joined.map Prod.fst).mem_iff, List.map_cons,
          List.mem_cons] at used
        rcases used with same | earlier
        · exact apart (same ▸ List.mem_map_of_mem member)
        · exact later other member earlier
      calc
        ((part :: parts).foldl join whole).details.entries.Perm
            (parts.map summary ++ (whole.join part).details.entries) :=
          induction distinct unused
        List.Perm _
            (parts.map summary ++ summary part :: whole.details.entries) :=
          joined.append_left _
        List.Perm _
            (summary part :: (parts.map summary ++ whole.details.entries)) :=
          List.perm_middle

theorem worstOf_aggregate (parts : List (String × Health)) :
    HealthStatus.WorstOf (.up :: parts.map (·.2.status))
      (aggregate parts).status := by
  rw [aggregate_eq, status_foldl_join]
  exact HealthStatus.worstOf_foldl _ _

theorem perm_aggregate {parts : List (String × Health)}
    (distinct : (parts.map Prod.fst).Nodup) :
    (aggregate parts).details.entries.Perm (parts.map summary) := by
  have unused : ∀ part ∈ parts,
      part.1 ∉ up.details.entries.map Prod.fst := by
    intro part _ used
    cases used
  have joined := perm_foldl_join distinct unused
  rw [aggregate_eq]
  exact joined.trans (.of_eq (List.append_nil _))

theorem aggregate_of_perm {parts others : List (String × Health)}
    (distinct : (parts.map Prod.fst).Nodup) (arranged : others.Perm parts) :
    aggregate others = aggregate parts := by
  have status : (aggregate others).status = (aggregate parts).status := by
    have statuses := (arranged.map (·.2.status)).cons HealthStatus.up
    exact (worstOf_aggregate others).unique
      ((worstOf_aggregate parts).perm statuses)
  have details : (aggregate others).details = (aggregate parts).details := by
    have otherDistinct : (others.map Prod.fst).Nodup :=
      (arranged.map Prod.fst).nodup_iff.mpr distinct
    apply Details.eq_of_perm
    exact ((perm_aggregate otherDistinct).trans (arranged.map summary)).trans
      (perm_aggregate distinct).symm
  exact congrArg₂ Health.mk status details

end Health

namespace Registry

variable {σ : Type}

def reports (registry : Registry σ) : List (String × Health) :=
  registry.ports.map fun port => (port.settings.name, port.health)

/-- The report of parts of different names has the worst of their statuses,
and works if there are no parts.  Its details are the statuses of the parts,
each once under its name.  It is the same for all arrangements of the parts, so
that a registry is as healthy in whatever order its ports are visited. -/
theorem healthy_in_any_order {parts : List (String × Health)}
    (distinct : (parts.map Prod.fst).Nodup) :
    let whole := Health.aggregate parts
    (parts = [] → whole.status = .up) ∧
    (parts ≠ [] → ∃ part ∈ parts, part.2.status = whole.status) ∧
    (∀ part ∈ parts, part.2.status.severity ≤ whole.status.severity) ∧
    whole.details.entries.Perm
      (parts.map fun part => (part.1, part.2.status.key)) ∧
    (∀ part ∈ parts, whole.details.get? part.1 = some part.2.status.key) ∧
    (∀ others, others.Perm parts → Health.aggregate others = whole) ∧
    ∀ {σ : Type} (registry : Registry σ) (order : List (Port σ)),
      registry.reports = parts → order.Perm registry.ports →
      ({ registry with ports := order } : Registry σ).health = whole := by
  intro whole
  have worst := Health.worstOf_aggregate parts
  have details := Health.perm_aggregate distinct
  refine ⟨?empty, ?attained, ?bound, details, ?found, ?arranged, ?visited⟩
  case empty =>
    rintro rfl
    rfl
  case attained =>
    intro given
    have attained := worst.mem_of_ne_nil (by simpa using given)
    exact List.mem_map.mp attained
  case bound =>
    intro part member
    apply worst.bound
    exact List.mem_cons_of_mem _ (List.mem_map_of_mem member)
  case found =>
    intro part member
    apply Details.get?_of_mem
    exact details.mem_iff.mpr (List.mem_map_of_mem member)
  case arranged => exact fun others => Health.aggregate_of_perm distinct
  case visited =>
    rintro σ registry order rfl arranged
    exact Health.aggregate_of_perm distinct (arranged.map _)

def mixed : Registry Unit :=
  let fresh := fun name => Port.fresh (PortSettings.named name) 5000 ()
  { ports := [fresh "cellar", (fresh "hall").setRunning true,
      (fresh "attic").dispose]
    devices := [] }

theorem mixed_down_in_any_order :
    (mixed.reports.map Prod.fst).Nodup ∧
    (∃ part ∈ mixed.reports, part.2.status = mixed.health.status) ∧
    (∀ part ∈ mixed.reports,
      part.2.status.severity ≤ mixed.health.status.severity) ∧
    mixed.health.status = .down ∧
    mixed.health.details.entries.Perm
      [("cellar", "OUT_OF_SERVICE"), ("hall", "UP"), ("attic", "DOWN")] ∧
    mixed.health.details.get? "cellar" = some "OUT_OF_SERVICE" ∧
    Health.aggregate mixed.reports.reverse = mixed.health ∧
    ({ mixed with ports := mixed.ports.reverse } : Registry Unit).health =
      mixed.health := by
  have distinct : (mixed.reports.map Prod.fst).Nodup := by decide
  obtain ⟨_, attained, bound, details, found, arranged, visited⟩ :=
    healthy_in_any_order distinct
  refine ⟨distinct, attained (by decide), bound, rfl, details, ?_, ?_, ?_⟩
  · exact found _ List.mem_cons_self
  · exact arranged _ (List.reverse_perm _)
  · exact visited mixed _ rfl (List.reverse_perm _)

end Registry

end MeterLine
