import Mathlib.Data.List.Chain
import Mathlib.Data.List.TakeWhile
import MeterLine.Proofs.Port.Watching

/-!
# Exchanges that keep to a plan

On a line that does at once what it is asked to, an exchange moves from tick to
tick.  Where it stands at an instant follows from the instants at which its
reply arrives: it watches until the first octet is there, reads once a tick,
and is done ten ticks behind the read that brought the last octet.  So it is
known in advance how long the exchange takes at most.
-/

namespace MeterLine

abbrev Arrivals := List (Nat × UInt8)

namespace Arrivals

def octets (arrivals : Arrivals) : Bytes :=
  arrivals.map Prod.snd

/-- Arrivals whose times were counted from a start. -/
def since (start : Nat) (arrivals : Arrivals) : Arrivals :=
  arrivals.map fun entry => (start + entry.1, entry.2)

/-- No octet arrives more than a gap behind the one before it. -/
def Steady (gap : Nat) (arrivals : Arrivals) : Prop :=
  arrivals.IsChain fun entry next => next.1 ≤ entry.1 + gap

instance (gap : Nat) (arrivals : Arrivals) : Decidable (Steady gap arrivals) :=
  inferInstanceAs (Decidable (arrivals.IsChain _))

variable {arrivals : Arrivals} {now gap count : Nat}

@[simp] theorem octets_since (start : Nat) (arrivals : Arrivals) :
    octets (since start arrivals) = octets arrivals := by
  simp [octets, since, Function.comp_def]

@[simp] theorem length_octets (arrivals : Arrivals) :
    (octets arrivals).length = arrivals.length := by
  simp [octets]

theorem Steady.since (steady : Steady gap arrivals) (start : Nat) :
    Steady gap (since start arrivals) := by
  apply List.isChain_map_of_isChain _ _ steady
  intro entry next near
  simp only []
  omega

theorem length_due_le (now : Nat) (arrivals : Arrivals) :
    (TimedLine.due now arrivals).length ≤ arrivals.length :=
  (List.takeWhile_prefix _).length_le

theorem arrived_of_take (few : count ≤ (TimedLine.due now arrivals).length) :
    ∀ entry ∈ arrivals.take count, entry.1 ≤ now := by
  intro entry member
  obtain ⟨rest, whole⟩ : TimedLine.due now arrivals <+: arrivals :=
    List.takeWhile_prefix _
  have same : arrivals.take count = (TimedLine.due now arrivals).take count :=
    calc
      arrivals.take count = (TimedLine.due now arrivals ++ rest).take count :=
        by rw [whole]
      _ = (TimedLine.due now arrivals).take count :=
        List.take_append_of_le_length few
  rw [same] at member
  have due := List.mem_takeWhile_imp (List.mem_of_mem_take member)
  simpa using due

theorem Steady.next (steady : Steady gap arrivals) (some_ : 0 < count)
    (few : count ≤ (TimedLine.due now arrivals).length) :
    ∀ entry ∈ (arrivals.drop count).head?, entry.1 ≤ now + gap := by
  intro entry first
  have whole := List.take_append_drop count arrivals
  rw [Steady, ← whole, List.isChain_append] at steady
  have long : 0 < arrivals.length := by
    have whole := length_due_le now arrivals
    omega
  have taken : arrivals.take count ≠ [] := by
    intro nothing
    rcases List.take_eq_nil_iff.mp nothing with none | empty
    · omega
    · rw [empty] at long
      cases long
  have last := List.getLast?_eq_some_getLast taken
  have near := steady.2.2 _ last entry first
  have arrived := arrived_of_take few _ (List.getLast_mem taken)
  omega

theorem Steady.drop (steady : Steady gap arrivals) (count : Nat) :
    Steady gap (arrivals.drop count) :=
  List.IsChain.drop steady count

theorem due_of_arrived (arrived : ∀ entry ∈ arrivals, entry.1 ≤ now) :
    TimedLine.due now arrivals = arrivals := by
  apply List.takeWhile_eq_self_iff.mpr
  simpa using arrived

theorem early_of_due {entry : Nat × UInt8}
    (nothing : TimedLine.due now arrivals = [])
    (first : entry ∈ arrivals.head?) : now < entry.1 := by
  cases arrivals with
  | nil => cases first
  | cons other others =>
      cases first
      apply Nat.lt_of_not_le
      intro arrived
      simp [TimedLine.due, arrived] at nothing

theorem arrived_of_due {entry : Nat × UInt8}
    (due : TimedLine.due now arrivals ≠ [])
    (first : entry ∈ arrivals.head?) : entry.1 ≤ now := by
  cases arrivals with
  | nil => cases first
  | cons other others =>
      cases first
      apply Nat.le_of_not_lt
      intro early
      simp [TimedLine.due, Nat.not_le_of_lt early] at due

end Arrivals

/-- A line that does at once what it is asked to.  A look counts the octets
that have arrived and were not read, a read gives some of them, as many as were
asked for or as the line gives at a time, and a flush sets the next reply on
its way.  Its events are not restricted. -/
structure Line.Immediate (line : Line σ) (unread next : σ → Arrivals)
    (pace : Nat) : Prop where
  paced : 0 < pace
  looks : ∀ now state,
    (line.available now state).value =
        .ok (TimedLine.due now (unread state)).length ∧
      unread (line.available now state).line = unread state ∧
      next (line.available now state).line = next state
  reads : ∀ now size state, 0 < size → TimedLine.due now (unread state) ≠ [] →
    ∃ count,
      min pace (min size (TimedLine.due now (unread state)).length) ≤ count ∧
      count ≤ min size (TimedLine.due now (unread state)).length ∧
      (line.read now size state).value =
        .ready (.ok (Arrivals.octets ((unread state).take count))) ∧
      unread (line.read now size state).line = (unread state).drop count ∧
      next (line.read now size state).line = next state
  writes : ∀ now octets state, octets ≠ [] → ∃ count,
    (line.write now octets state).value = .ready (.ok (count + 1)) ∧
      unread (line.write now octets state).line = unread state ∧
      next (line.write now octets state).line = next state
  flushes : ∀ now state,
    (line.flush now state).value = .ready (.ok ()) ∧
      unread (line.flush now state).line =
        unread state ++ Arrivals.since now (next state)

namespace Exchange

/-- What is known in advance of an exchange. -/
structure Plan where
  settings : PortSettings
  start : Nat
  reply : Arrivals
  pace : Nat
  slots : Nat
  reads : Nat

namespace Plan

def instant (plan : Plan) (tick : Nat) : Nat :=
  plan.start + tick * plan.settings.tick

def length (plan : Plan) : Nat :=
  plan.slots + plan.reads + idlePolls

def arrivals (plan : Plan) : Arrivals :=
  plan.reply.since plan.start

/-- The reply is read in so many reads, and without a gap in which it would
count as complete. -/
structure Sound (plan : Plan) : Prop where
  counted : plan.settings.wait < 0x8000000000000000
  replies : plan.reply ≠ []
  short : plan.reply.length ≤ chunkSize
  steady : plan.reply.Steady (idlePolls * plan.settings.tick)
  complete : ∀ entry ∈ plan.reply,
    entry.1 ≤ plan.slots * plan.settings.tick
  paced : plan.reply.length ≤ plan.pace * plan.reads

def Late (plan : Plan) : Prop :=
  ∀ entry ∈ plan.reply.head?, plan.settings.lastLook < entry.1

/-- The data-ready flag at a look: it is not up more than nine ticks ahead of
the first octet, and when the last look was too early it is up behind it. -/
structure Heard (plan : Plan) (now : Nat) (remaining : Int) (ready : Bool) :
    Prop where
  honest : ready = true → ∀ entry ∈ plan.arrivals.head?,
    entry.1 ≤ now + (idlePolls - 1) * plan.settings.tick
  announced : remaining < 0 → plan.Late → ready = true

theorem instant_succ (plan : Plan) (tick : Nat) :
    plan.instant (tick + 1) = plan.instant tick + plan.settings.tick := by
  rw [instant, instant, Nat.succ_mul, Nat.add_assoc]

theorem instant_add (plan : Plan) (tick more : Nat) :
    plan.instant (tick + more) =
      plan.instant tick + more * plan.settings.tick := by
  rw [instant, instant, Nat.add_mul, Nat.add_assoc]

theorem instant_le {plan : Plan} {tick later : Nat} (behind : tick ≤ later) :
    plan.instant tick ≤ plan.instant later := by
  have scaled := Nat.mul_le_mul_right plan.settings.tick behind
  unfold instant
  omega

theorem lt_of_instant_lt {plan : Plan} {tick later : Nat}
    (before : plan.instant tick < plan.instant later) : tick < later := by
  apply Nat.lt_of_not_le
  intro behind
  have := plan.instant_le behind
  omega

theorem head?_arrivals (plan : Plan) {entry : Nat × UInt8}
    (first : entry ∈ plan.reply.head?) :
    (plan.start + entry.1, entry.2) ∈ plan.arrivals.head? := by
  simp only [arrivals, Arrivals.since, List.head?_map]
  rw [Option.mem_def.mp first]
  rfl

end Plan

/-- A reply of which `gathered` was read before the poll at a tick, with so
many empty polls left, and `rest` is to come or to be read. -/
structure Gathers (plan : Plan) (tick idle : Nat) (gathered : Bytes)
    (rest : Arrivals) : Prop where
  whole : gathered ++ rest.octets = plan.reply.octets
  steady : rest.Steady (idlePolls * plan.settings.tick)
  complete : ∀ entry ∈ rest, entry.1 ≤ plan.instant plan.slots
  ended : rest = [] → tick + idle ≤ plan.length
  patient : rest ≠ [] → 0 < idle
  near : ∀ entry ∈ rest.head?,
    entry.1 + plan.settings.tick ≤ plan.instant (tick + idle)
  paced : rest ≠ [] → ∃ reads, rest.length ≤ plan.pace * reads ∧
    reads ≤ plan.reads ∧ tick + reads ≤ plan.slots + plan.reads

/-- Where an exchange stands at an instant.  Up to the watch no time has passed,
and from then on the phase belongs to a tick of the plan. -/
inductive Keeps (plan : Plan) (unread next : σ → Arrivals) (now : Nat) :
    Phase → σ → Prop where
  | draining (state : σ) :
      now = plan.start → next state = plan.reply →
      (∀ entry ∈ unread state, entry.1 ≤ plan.start) →
      Keeps plan unread next now .draining state
  | discarding (size deadline : Nat) (state : σ) :
      now = plan.start → next state = plan.reply →
      (∀ entry ∈ unread state, entry.1 ≤ plan.start) →
      0 < size → unread state ≠ [] →
      Keeps plan unread next now (.discarding size deadline) state
  | writing (rest : Bytes) (deadline : Nat) (state : σ) :
      now = plan.start → next state = plan.reply → unread state = [] →
      Keeps plan unread next now (.writing rest deadline) state
  | flushing (deadline : Nat) (state : σ) :
      now = plan.start → next state = plan.reply → unread state = [] →
      Keeps plan unread next now (.flushing deadline) state
  | watching (tick : Nat) (state : σ) :
      now = plan.instant tick → tick ≤ plan.slots →
      (plan.settings.wait < tick * plan.settings.tick → plan.Late) →
      unread state = plan.arrivals →
      Keeps plan unread next now
        (.watching
          (plan.settings.wait - (tick * plan.settings.tick : Nat))) state
  | dozing (tick : Nat) (state : σ) :
      now ≤ plan.instant (tick + 1) → tick + 1 ≤ plan.slots →
      (plan.settings.wait < (tick + 1) * plan.settings.tick → plan.Late) →
      unread state = plan.arrivals →
      Keeps plan unread next now
        (.dozing (plan.settings.wait - (tick * plan.settings.tick : Nat))
          (plan.instant (tick + 1))) state
  | polling (tick idle : Nat) (gathered : Bytes) (state : σ) :
      now = plan.instant tick →
      Gathers plan tick idle gathered (unread state) →
      Keeps plan unread next now (.polling gathered idle) state
  | reading (tick idle size deadline : Nat) (gathered : Bytes) (state : σ) :
      now = plan.instant tick →
      Gathers plan tick idle gathered (unread state) →
      0 < size → size = (TimedLine.due now (unread state)).length →
      Keeps plan unread next now (.reading gathered idle size deadline) state
  | resting (tick idle : Nat) (gathered : Bytes) (state : σ) :
      now ≤ plan.instant tick →
      Gathers plan tick idle gathered (unread state) →
      Keeps plan unread next now
        (.resting gathered idle (plan.instant tick)) state

variable {plan : Plan} {unread next : σ → Arrivals} {now after : Nat}
  {phase : Phase} {state : σ}

theorem Gathers.in_time {tick idle : Nat} {gathered : Bytes} {rest : Arrivals}
    (gathers : Gathers plan tick idle gathered rest) :
    tick ≤ plan.length := by
  by_cases done : rest = []
  · have := gathers.ended done
    omega
  · obtain ⟨reads, _, _, room⟩ := gathers.paced done
    unfold Plan.length
    omega

theorem Keeps.in_time (keeps : Keeps plan unread next now phase state) :
    now ≤ plan.instant plan.length := by
  have first : plan.start ≤ plan.instant plan.length :=
    Nat.le_add_right _ _
  have slots : plan.slots ≤ plan.length := by
    unfold Plan.length
    omega
  cases keeps with
  | draining _ same => omega
  | discarding _ _ _ same => omega
  | writing _ _ _ same => omega
  | flushing _ _ same => omega
  | watching tick _ same inside =>
      rw [same]
      exact Plan.instant_le (Nat.le_trans inside slots)
  | dozing tick _ asleep inside =>
      exact Nat.le_trans asleep
        (Plan.instant_le (Nat.le_trans inside slots))
  | polling tick idle gathered _ same gathers =>
      rw [same]
      exact Plan.instant_le gathers.in_time
  | reading tick idle size deadline gathered _ same gathers =>
      rw [same]
      exact Plan.instant_le gathers.in_time
  | resting tick idle gathered _ asleep gathers =>
      exact Nat.le_trans asleep (Plan.instant_le gathers.in_time)

theorem Keeps.later (keeps : Keeps plan unread next now phase state)
    (passes : now ≤ after) (prompt : after ≤ max now (phase.wake?.getD now)) :
    Keeps plan unread next after phase state := by
  have still : phase.wake? = none → after = now := by
    intro busy
    rw [busy] at prompt
    simp only [Option.getD_none, Nat.max_self] at prompt
    omega
  cases keeps with
  | dozing tick _ asleep inside late same =>
      refine .dozing tick state ?_ inside late same
      simp only [Phase.wake?, Option.getD_some] at prompt
      omega
  | resting tick idle gathered _ asleep gathers =>
      refine .resting tick idle gathered state ?_ gathers
      simp only [Phase.wake?, Option.getD_some] at prompt
      omega
  | _ =>
      rw [still rfl]
      constructor <;> assumption

/-- A step goes on as planned, or the exchange is done with the whole reply. -/
inductive Comes (plan : Plan) (unread next : σ → Arrivals) (now : Nat) :
    Step σ → Prop where
  | next (phase : Phase) (wire : Wire σ) :
      Keeps plan unread next now phase wire.line →
      Comes plan unread next now (.next phase wire)
  | wait (phase : Phase) (wire : Wire σ) (wake : Nat) :
      Keeps plan unread next now phase wire.line →
      Comes plan unread next now (.wait phase wire wake)
  | done (wire : Wire σ) :
      Comes plan unread next now (.done (.ok plan.reply.octets) wire)

variable {line : Line σ} {request : Bytes} {wire : Wire σ}
  {result : Step σ}

theorem Comes.keeps (comes : Comes plan unread next now result)
    (goes : result.goesOn? = some (phase, wire)) :
    Keeps plan unread next now phase wire.line := by
  cases comes with
  | next phase wire keeps => cases goes; exact keeps
  | wait phase wire wake keeps => cases goes; exact keeps
  | done wire => cases goes

theorem no_failed_look (immediate : line.Immediate unread next plan.pace)
    {failure : Failure} : (line.available now state).value ≠ .error failure := by
  intro failed
  rw [(immediate.looks now state).1] at failed
  cases failed

theorem due_of_look (immediate : line.Immediate unread next plan.pace)
    {count : Nat} (value : (line.available now state).value = .ok count) :
    (TimedLine.due now (unread state)).length = count := by
  rw [(immediate.looks now state).1] at value
  exact Except.ok.inj value

theorem read_of_due (immediate : line.Immediate unread next plan.pace)
    {size : Nat} (positive : 0 < size)
    (due : TimedLine.due now (unread state) ≠ []) :
    ∃ count, 0 < count ∧
      min plan.pace (min size (TimedLine.due now (unread state)).length) ≤
        count ∧
      count ≤ (TimedLine.due now (unread state)).length ∧
      Arrivals.octets ((unread state).take count) ≠ [] ∧
      (line.read now size state).value =
        .ready (.ok (Arrivals.octets ((unread state).take count))) ∧
      unread (line.read now size state).line = (unread state).drop count ∧
      next (line.read now size state).line = next state := by
  obtain ⟨count, least, most, value, left, kept⟩ :=
    immediate.reads now size state positive due
  have some_ := List.length_pos_iff.mpr due
  have paced := immediate.paced
  have more : 0 < count := by omega
  refine ⟨count, more, least, by omega, ?_, value, left, kept⟩
  intro nothing
  have whole := Arrivals.length_due_le now (unread state)
  have length := congrArg List.length nothing
  simp only [Arrivals.length_octets, List.length_take,
    List.length_nil] at length
  omega

private theorem draining_comes
    (immediate : line.Immediate unread next plan.pace)
    (same : now = plan.start) (replies : next wire.line = plan.reply)
    (past : ∀ entry ∈ unread wire.line, entry.1 ≤ plan.start)
    (moves : Moves plan.settings line now request wire .draining result) :
    Comes plan unread next now result := by
  obtain ⟨_, left, kept⟩ := immediate.looks now wire.line
  have all : TimedLine.due now (unread wire.line) = unread wire.line := by
    apply Arrivals.due_of_arrived
    rw [same]
    exact past
  cases moves with
  | drainFails failure value => exact (no_failed_look immediate value).elim
  | drainEnds value =>
      have none := due_of_look immediate value
      rw [all] at none
      apply Comes.next
      simp only [Wire.clear_line, Wire.take_line]
      apply Keeps.writing
      · exact same
      · rw [kept, replies]
      · rw [left]
        exact List.length_eq_zero_iff.mp none
  | drainFinds count value =>
      have some_ := due_of_look immediate value
      rw [all] at some_
      apply Comes.next
      rw [Wire.take_line]
      apply Keeps.discarding
      · exact same
      · rw [kept, replies]
      · rw [left]
        exact past
      · simp only [chunkSize]
        omega
      · rw [left]
        intro empty
        simp [empty] at some_

private theorem discarding_comes {size deadline : Nat}
    (immediate : line.Immediate unread next plan.pace)
    (same : now = plan.start) (replies : next wire.line = plan.reply)
    (past : ∀ entry ∈ unread wire.line, entry.1 ≤ plan.start)
    (positive : 0 < size) (some_ : unread wire.line ≠ [])
    (moves : Moves plan.settings line now request wire
      (.discarding size deadline) result) :
    Comes plan unread next now result := by
  have all : TimedLine.due now (unread wire.line) = unread wire.line := by
    apply Arrivals.due_of_arrived
    rw [same]
    exact past
  have due : TimedLine.due now (unread wire.line) ≠ [] := by
    rw [all]
    exact some_
  obtain ⟨count, _, _, _, given, ready, left, kept⟩ :=
    read_of_due immediate positive due
  cases moves with
  | discardFails _ _ fault value =>
      rw [ready] at value
      cases value
  | discardGivesUp _ _ fruitless =>
      rcases fruitless with value | ⟨_, wake, value⟩
      · rw [ready] at value
        simp only [Poll.ready.injEq, Except.ok.injEq] at value
        exact (given value).elim
      · rw [ready] at value
        cases value
  | discards _ _ octets _ value =>
      apply Comes.next
      rw [Wire.take_line]
      apply Keeps.draining
      · exact same
      · rw [kept, replies]
      · rw [left]
        intro entry member
        exact past entry (List.mem_of_mem_drop member)
  | discardWaits _ _ wake _ value =>
      rw [ready] at value
      cases value

private theorem writing_comes {rest : Bytes} {deadline : Nat}
    (immediate : line.Immediate unread next plan.pace)
    (same : now = plan.start) (replies : next wire.line = plan.reply)
    (empty : unread wire.line = [])
    (moves : Moves plan.settings line now request wire
      (.writing rest deadline) result) :
    Comes plan unread next now result := by
  have takes (some_ : rest ≠ []) :=
    immediate.writes now rest wire.line some_
  cases moves with
  | written _ => exact .next _ _ (.flushing deadline wire.line same replies
      empty)
  | writeFails _ _ fault some_ value =>
      obtain ⟨count, taken, _⟩ := takes some_
      rw [taken] at value
      cases value
  | writesNothing _ _ some_ value =>
      obtain ⟨count, taken, _⟩ := takes some_
      rw [taken] at value
      cases value
  | writes _ _ count some_ value =>
      obtain ⟨_, _, left, kept⟩ := takes some_
      apply Comes.next
      rw [Wire.take_line]
      apply Keeps.writing
      · exact same
      · rw [kept, replies]
      · rw [left, empty]
  | writeExpires _ _ wake some_ _ value =>
      obtain ⟨count, taken, _⟩ := takes some_
      rw [taken] at value
      cases value
  | writeWaits _ _ wake some_ _ value =>
      obtain ⟨count, taken, _⟩ := takes some_
      rw [taken] at value
      cases value

private theorem flushing_comes {deadline : Nat}
    (immediate : line.Immediate unread next plan.pace) (sound : plan.Sound)
    (same : now = plan.start) (replies : next wire.line = plan.reply)
    (empty : unread wire.line = [])
    (moves : Moves plan.settings line now request wire (.flushing deadline)
      result) :
    Comes plan unread next now result := by
  obtain ⟨flushed, sent⟩ := immediate.flushes now wire.line
  cases moves with
  | flushFails _ fault value =>
      rw [flushed] at value
      cases value
  | flushes _ value =>
      have whole : watchTime plan.settings =
          plan.settings.wait - ((0 * plan.settings.tick : Nat) : Int) := by
        simp [watchTime, sound.counted]
      apply Comes.next
      rw [whole, Wire.sent_line, Wire.take_line]
      apply Keeps.watching
      · simp [Plan.instant, same]
      · exact Nat.zero_le _
      · intro elapsed
        omega
      · rw [sent, empty, replies, same]
        rfl
  | flushExpires _ wake _ value =>
      rw [flushed] at value
      cases value
  | flushWaits _ wake _ value =>
      rw [flushed] at value
      cases value

/-- When the watch ends nothing was read of the reply. -/
theorem Gathers.begin (sound : plan.Sound) {tick : Nat}
    (inside : tick ≤ plan.slots)
    (near : ∀ entry ∈ plan.arrivals.head?,
      entry.1 ≤ plan.instant tick + (idlePolls - 1) * plan.settings.tick) :
    Gathers plan tick idlePolls [] plan.arrivals := by
  constructor
  · simp [Plan.arrivals]
  · exact sound.steady.since plan.start
  · intro entry member
    obtain ⟨other, given, rfl⟩ := List.mem_map.mp member
    exact Nat.add_le_add_left (sound.complete other given) plan.start
  · intro nothing
    exact (sound.replies (List.map_eq_nil_iff.mp nothing)).elim
  · intro _
    decide
  · intro entry first
    have bound := near entry first
    rw [Plan.instant_add]
    simp only [idlePolls] at bound ⊢
    omega
  · intro _
    refine ⟨plan.reads, ?_, Nat.le_refl _, by omega⟩
    simpa [Plan.arrivals, Arrivals.since] using sound.paced

private theorem watching_comes {tick : Nat}
    (immediate : line.Immediate unread next plan.pace) (sound : plan.Sound)
    (same : now = plan.instant tick) (inside : tick ≤ plan.slots)
    (late : plan.settings.wait < tick * plan.settings.tick → plan.Late)
    (waits : unread wire.line = plan.arrivals)
    (heard : plan.Heard now
      (plan.settings.wait - (tick * plan.settings.tick : Nat)) wire.ready)
    (moves : Moves plan.settings line now request wire
      (.watching (plan.settings.wait - (tick * plan.settings.tick : Nat)))
      result) :
    Comes plan unread next now result := by
  obtain ⟨_, left, _⟩ := immediate.looks now wire.line
  cases moves with
  | hears _ ready =>
      apply Comes.next
      apply Keeps.polling tick idlePolls [] wire.line same
      rw [waits]
      apply Gathers.begin sound inside
      rw [← same]
      exact heard.honest ready
  | watchExpires _ silent elapsed =>
      have ready := heard.announced elapsed (late (by omega))
      rw [silent] at ready
      cases ready
  | watchFails _ failure _ _ value =>
      exact (no_failed_look immediate value).elim
  | watches _ silent still value =>
      have nothing := List.length_eq_zero_iff.mp (due_of_look immediate value)
      rw [waits] at nothing
      have early {entry : Nat × UInt8} (first : entry ∈ plan.reply.head?) :
          plan.instant tick < plan.start + entry.1 := by
        rw [← same]
        apply Arrivals.early_of_due nothing (plan.head?_arrivals first)
      -- Nothing has arrived, and all of the reply does by the last slot.
      have more : tick + 1 ≤ plan.slots := by
        obtain ⟨entry, others, shape⟩ :=
          List.exists_cons_of_ne_nil sound.replies
        have first : entry ∈ plan.reply.head? := by
          rw [shape]
          rfl
        have complete := sound.complete entry (List.mem_of_mem_head? first)
        have reached : plan.instant tick < plan.instant plan.slots :=
          Nat.lt_of_lt_of_le (early first)
            (Nat.add_le_add_left complete plan.start)
        exact Plan.lt_of_instant_lt reached
      apply Comes.next
      rw [Wire.take_line, same, ← Plan.instant_succ]
      apply Keeps.dozing tick
      · exact Plan.instant_le (Nat.le_succ tick)
      · exact more
      · intro elapsed entry first
        apply Nat.lt_of_not_le
        intro inTime
        have room := time_for_look (early first)
          (Nat.add_le_add_left inTime plan.start)
        rw [Nat.succ_mul] at elapsed
        omega
      · rw [← same, left, waits]
  | finds _ count silent still value =>
      have due := due_of_look immediate value
      apply Comes.next
      apply Keeps.polling tick idlePolls [] _ same
      simp only [Wire.take_line]
      rw [left, waits]
      apply Gathers.begin sound inside
      intro entry first
      have some_ : TimedLine.due now plan.arrivals ≠ [] := by
        intro nothing
        rw [waits, nothing] at due
        cases due
      have arrived := Arrivals.arrived_of_due some_ first
      omega

private theorem dozing_comes {tick : Nat}
    (asleep : now ≤ plan.instant (tick + 1)) (inside : tick + 1 ≤ plan.slots)
    (late : plan.settings.wait < (tick + 1) * plan.settings.tick → plan.Late)
    (waits : unread wire.line = plan.arrivals)
    (moves : Moves plan.settings line now request wire
      (.dozing (plan.settings.wait - (tick * plan.settings.tick : Nat))
        (plan.instant (tick + 1))) result) :
    Comes plan unread next now result := by
  cases moves with
  | wakes _ _ awake =>
      have less : ((plan.settings.wait : Int) -
          (tick * plan.settings.tick : Nat)) - plan.settings.tick =
            plan.settings.wait - ((tick + 1) * plan.settings.tick : Nat) := by
        rw [Nat.succ_mul]
        omega
      apply Comes.next
      rw [less]
      exact .watching (tick + 1) wire.line (Nat.le_antisymm asleep awake)
        inside late waits
  | dozes _ _ _ =>
      exact .wait _ _ _ (.dozing tick wire.line asleep inside late waits)

theorem Gathers.look {tick idle : Nat} {gathered : Bytes} {rest : Arrivals}
    (gathers : Gathers plan tick (idle + 1) gathered rest)
    (nothing : TimedLine.due (plan.instant tick) rest = []) :
    Gathers plan (tick + 1) idle gathered rest := by
  have shift : tick + 1 + idle = tick + (idle + 1) := by omega
  have early : rest ≠ [] → ∃ entry ∈ rest.head?,
      plan.instant tick < entry.1 := by
    intro some_
    obtain ⟨entry, others, rfl⟩ := List.exists_cons_of_ne_nil some_
    exact ⟨entry, rfl, Arrivals.early_of_due nothing rfl⟩
  constructor
  · exact gathers.whole
  · exact gathers.steady
  · exact gathers.complete
  · rw [shift]
    exact gathers.ended
  · intro some_
    obtain ⟨entry, first, before⟩ := early some_
    have near := gathers.near entry first
    rw [Plan.instant_add, Nat.succ_mul] at near
    apply Nat.pos_of_ne_zero
    rintro rfl
    omega
  · rw [shift]
    exact gathers.near
  · intro some_
    obtain ⟨entry, first, before⟩ := early some_
    obtain ⟨reads, paced, most, room⟩ := gathers.paced some_
    have complete := gathers.complete entry (List.mem_of_mem_head? first)
    have inside : tick < plan.slots :=
      Plan.lt_of_instant_lt (Nat.lt_of_lt_of_le before complete)
    exact ⟨reads, paced, most, by omega⟩

private theorem polling_comes {tick idle : Nat} {gathered : Bytes}
    (immediate : line.Immediate unread next plan.pace) (sound : plan.Sound)
    (same : now = plan.instant tick)
    (gathers : Gathers plan tick idle gathered (unread wire.line))
    (moves : Moves plan.settings line now request wire
      (.polling gathered idle) result) :
    Comes plan unread next now result := by
  obtain ⟨_, left, _⟩ := immediate.looks now wire.line
  have short : gathered.length + (unread wire.line).length ≤ chunkSize := by
    have whole := congrArg List.length gathers.whole
    simp only [List.length_append, Arrivals.length_octets] at whole
    rw [whole]
    exact sound.short
  cases moves with
  | finishes _ _ last =>
      -- Neither the empty polls nor the room for octets run out as long as
      -- there is something to read.
      have done : unread wire.line = [] := by
        by_contra more
        have patient := gathers.patient more
        simp only [chunkSize] at short
        simp only [replyLimit] at last
        omega
      have whole := gathers.whole
      rw [done] at whole
      simp only [Arrivals.octets, List.map_nil, List.append_nil] at whole
      rw [whole]
      exact .done _
  | pollFails _ idle failure _ value =>
      exact (no_failed_look immediate value).elim
  | pollsNothing _ idle room value =>
      have nothing := List.length_eq_zero_iff.mp (due_of_look immediate value)
      rw [same] at nothing
      apply Comes.next
      rw [Wire.take_line, same, ← Plan.instant_succ]
      apply Keeps.resting
      · exact Plan.instant_le (Nat.le_succ tick)
      · rw [← same, left]
        exact gathers.look nothing
  | polls _ idle count room value =>
      have due := due_of_look immediate value
      have few := Arrivals.length_due_le now (unread wire.line)
      apply Comes.next
      rw [Wire.take_line]
      apply Keeps.reading tick
      · exact same
      · rw [left]
        exact gathers
      · simp only [chunkSize]
        omega
      · simp only [chunkSize, replyLimit] at short room ⊢
        rw [left]
        omega

/-- A read of octets that are due. -/
theorem Gathers.read {tick idle count : Nat} {gathered : Bytes}
    {rest : Arrivals} (gathers : Gathers plan tick idle gathered rest)
    (more : 0 < count)
    (few : count ≤ (TimedLine.due (plan.instant tick) rest).length)
    (least : min plan.pace (TimedLine.due (plan.instant tick) rest).length ≤
      count) :
    Gathers plan (tick + 1) idlePolls
      (gathered ++ Arrivals.octets (rest.take count)) (rest.drop count) := by
  have long := Arrivals.length_due_le (plan.instant tick) rest
  have some_ : rest ≠ [] := by
    apply List.length_pos_iff.mp
    omega
  obtain ⟨reads, paced, most, room⟩ := gathers.paced some_
  obtain ⟨left, rfl⟩ : ∃ left, reads = left + 1 := by
    cases reads with
    | zero => omega
    | succ left => exact ⟨left, rfl⟩
  constructor
  · rw [← gathers.whole, List.append_assoc, Arrivals.octets, Arrivals.octets,
      ← List.map_append, List.take_append_drop]
    rfl
  · exact gathers.steady.drop count
  · intro entry member
    exact gathers.complete entry (List.mem_of_mem_drop member)
  · intro _
    unfold Plan.length
    omega
  · intro _
    decide
  · intro entry first
    have near := gathers.steady.next more few entry first
    have ends : plan.instant (tick + 1 + idlePolls) =
        plan.instant tick + idlePolls * plan.settings.tick +
          plan.settings.tick := by
      rw [Nat.add_right_comm, Plan.instant_succ, Plan.instant_add]
    omega
  · intro others
    have rest_long : count < rest.length := by
      apply Nat.lt_of_not_le
      intro all
      exact others (List.drop_eq_nil_of_le all)
    rw [List.length_drop]
    by_cases early : tick < plan.slots
    · exact ⟨left + 1, by omega, most, by omega⟩
    · -- Everything has arrived, so the read gave as much as the line can.
      have arrived : ∀ entry ∈ rest, entry.1 ≤ plan.instant tick := by
        intro entry member
        exact Nat.le_trans (gathers.complete entry member)
          (Plan.instant_le (Nat.le_of_not_lt early))
      rw [Arrivals.due_of_arrived arrived] at least
      rw [Nat.mul_succ] at paced
      exact ⟨left, by omega, by omega, by omega⟩

private theorem reading_comes {tick idle size deadline : Nat}
    {gathered : Bytes} (immediate : line.Immediate unread next plan.pace)
    (same : now = plan.instant tick)
    (gathers : Gathers plan tick idle gathered (unread wire.line))
    (positive : 0 < size)
    (all : size = (TimedLine.due now (unread wire.line)).length)
    (moves : Moves plan.settings line now request wire
      (.reading gathered idle size deadline) result) :
    Comes plan unread next now result := by
  have due : TimedLine.due now (unread wire.line) ≠ [] := by
    apply List.length_pos_iff.mp
    omega
  obtain ⟨count, more, least, few, given, ready, left, _⟩ :=
    read_of_due immediate positive due
  cases moves with
  | readFails _ _ _ _ fault value =>
      rw [ready] at value
      cases value
  | readsNothing _ _ _ _ fruitless =>
      rcases fruitless with value | ⟨_, wake, value⟩
      · rw [ready] at value
        simp only [Poll.ready.injEq, Except.ok.injEq] at value
        exact (given value).elim
      · rw [ready] at value
        cases value
  | reads _ _ _ _ octets _ value =>
      rw [ready] at value
      cases value
      apply Comes.next
      rw [Wire.take_line, same, ← Plan.instant_succ]
      apply Keeps.resting
      · exact Plan.instant_le (Nat.le_succ tick)
      · rw [← same, left]
        rw [all, Nat.min_self] at least
        rw [same] at least few
        exact gathers.read more few least
  | readWaits _ _ _ _ wake _ value =>
      rw [ready] at value
      cases value

private theorem resting_comes {tick idle : Nat} {gathered : Bytes}
    (asleep : now ≤ plan.instant tick)
    (gathers : Gathers plan tick idle gathered (unread wire.line))
    (moves : Moves plan.settings line now request wire
      (.resting gathered idle (plan.instant tick)) result) :
    Comes plan unread next now result := by
  cases moves with
  | resumes _ _ _ awake =>
      exact .next _ _ (.polling tick idle gathered wire.line
        (Nat.le_antisymm asleep awake) gathers)
  | rests _ _ _ _ =>
      exact .wait _ _ _ (.resting tick idle gathered wire.line asleep gathers)

/-- An exchange that keeps to its plan goes on to do so, and is done only with
the whole reply. -/
theorem Keeps.step (keeps : Keeps plan unread next now phase wire.line)
    (immediate : line.Immediate unread next plan.pace) (sound : plan.Sound)
    (heard : ∀ remaining, phase = .watching remaining →
      plan.Heard now remaining wire.ready) (request : Bytes) :
    Comes plan unread next now
      (step plan.settings line now request phase wire) := by
  have moves := step_moves plan.settings line now request phase wire
  cases keeps with
  | draining _ same replies past =>
      exact draining_comes immediate same replies past moves
  | discarding size deadline _ same replies past positive some_ =>
      exact discarding_comes immediate same replies past positive some_ moves
  | writing rest deadline _ same replies empty =>
      exact writing_comes immediate same replies empty moves
  | flushing deadline _ same replies empty =>
      exact flushing_comes immediate sound same replies empty moves
  | watching tick _ same inside late waits =>
      exact watching_comes immediate sound same inside late waits
        (heard _ rfl) moves
  | dozing tick _ asleep inside late waits =>
      exact dozing_comes asleep inside late waits moves
  | polling tick idle gathered _ same gathers =>
      exact polling_comes immediate sound same gathers moves
  | reading tick idle size deadline gathered _ same gathers positive all =>
      exact reading_comes immediate same gathers positive all moves
  | resting tick idle gathered _ asleep gathers =>
      exact resting_comes asleep gathers moves

end Exchange

end MeterLine
