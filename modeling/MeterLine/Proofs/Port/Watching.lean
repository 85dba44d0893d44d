import MeterLine.Proofs.Port.Moves
import MeterLine.Proofs.Sharing.Metered

/-!
# Watching for a reply

A worker that has written a request samples the data-ready flag and the input
of its line once a tick.  The flag ends the watch by itself, and then the input
is found empty ten times before an empty reply is returned.  So a reply is
missed by an event that comes too far ahead of it, and by nothing else, as long
as its first octet arrives before the last look.
-/

namespace MeterLine

/-- The input of a line as it grows with time.  Octets stay in it until they
are read, a look tells whether there are some, and a read then gives some of
them at once.  The events of the line are not restricted. -/
structure Line.Inflow (line : Line σ) (holds : Nat → σ → Bytes) : Prop where
  grows : ∀ {now later : Nat} (state : σ), now ≤ later →
    holds now state <+: holds later state
  looks : ∀ (now : Nat) (state : σ), ∃ count,
    (line.available now state).value = .ok count ∧
      (count = 0 ↔ holds now state = [])
  keeps : ∀ {now later : Nat} (state : σ), now ≤ later →
    holds later state <+: holds later (line.available now state).line
  reads : ∀ {now size : Nat} (state : σ), 0 < size → holds now state ≠ [] →
    ∃ octets, octets ≠ [] ∧ octets <+: holds now state ∧
      (line.read now size state).value = .ready (.ok octets)

private theorem head?_of_part {front whole : Bytes}
    (part : front <+: whole) (some_ : front ≠ []) :
    whole.head? = front.head? := by
  obtain ⟨rest, rfl⟩ := part
  cases front with
  | nil => exact (some_ rfl).elim
  | cons octet others => rfl

private theorem ne_nil_of_head? {octets : Bytes} {octet : UInt8}
    (first : octets.head? = some octet) : octets ≠ [] := by
  rintro rfl
  cases first

/-- From the instant `due` on, an octet is the first one to be read. -/
def Brings (holds : Nat → σ → Bytes) (octet : UInt8) (due now : Nat)
    (state : σ) : Prop :=
  ∀ later, due ≤ later → now ≤ later →
    (holds later state).head? = some octet

namespace Brings

variable {line : Line σ} {holds : Nat → σ → Bytes} {octet : UInt8}
  {due now next : Nat} {state : σ}

theorem later (brings : Brings holds octet due now state)
    (passes : now ≤ next) : Brings holds octet due next state := by
  intro instant arrived after
  exact brings instant arrived (Nat.le_trans passes after)

theorem early (brings : Brings holds octet due now state)
    (empty : holds now state = []) : now < due := by
  apply Nat.lt_of_not_le
  intro arrived
  have first := brings now arrived (Nat.le_refl now)
  rw [empty] at first
  cases first

theorem first (brings : Brings holds octet due now state)
    (inflow : line.Inflow holds) (unread : holds now state ≠ []) :
    (holds now state).head? = some octet := by
  have first := brings (max due now) (Nat.le_max_left due now)
    (Nat.le_max_right due now)
  have grown := inflow.grows state (Nat.le_max_right due now)
  rw [head?_of_part grown unread] at first
  exact first

theorem looked (brings : Brings holds octet due now state)
    (inflow : line.Inflow holds) :
    Brings holds octet due now (line.available now state).line := by
  intro instant arrived after
  have first := brings instant arrived after
  rw [head?_of_part (inflow.keeps state after) (ne_nil_of_head? first)]
  exact first

/-- An octet that can be read now is the first one from now on. -/
theorem of_first (inflow : line.Inflow holds)
    (first : (holds now state).head? = some octet) :
    Brings holds octet now now state := by
  intro instant _ after
  rw [head?_of_part (inflow.grows state after) (ne_nil_of_head? first)]
  exact first

end Brings

namespace Exchange

/-- A number that every step of a watch makes smaller, unless it waits: first
the time that remains, then the room for octets, then the empty looks that are
left. -/
def Phase.rank : Phase → Nat
  | .watching remaining =>
      3 * ((replyLimit + 1) * (idlePolls + 1)) +
        2 * (remaining + 1).toNat + 1
  | .dozing remaining _ =>
      3 * ((replyLimit + 1) * (idlePolls + 1)) + 2 * (remaining + 1).toNat
  | .polling reply idle =>
      3 * ((replyLimit - reply.length) * (idlePolls + 1) + idle) + 1
  | .reading reply idle _ _ =>
      3 * ((replyLimit - reply.length) * (idlePolls + 1) + idle)
  | .resting reply idle _ =>
      3 * ((replyLimit - reply.length) * (idlePolls + 1) + idle) + 2
  | _ => 0

def Phase.wake? : Phase → Option Nat
  | .dozing _ wake => some wake
  | .resting _ _ wake => some wake
  | _ => none

/-- Polls since the instant `first` found the input empty, and the next one is
not before `since`.  An octet that comes later than the last of ten polls was
announced too early. -/
inductive Polled (settings : PortSettings) (holds : Nat → σ → Bytes)
    (octet : UInt8) (early : Prop) (idle since now : Nat) (state : σ) :
    Prop where
  | intro (first due polls : Nat) :
      polls + idle = idlePolls →
      first + polls * settings.tick ≤ since →
      (first + (idlePolls - 1) * settings.tick < due → early) →
      (idle = 0 → early) →
      Brings holds octet due now state →
      Polled settings holds octet early idle since now state

/-- What holds of an exchange whose request was written at the instant
`flushed` and whose reply begins to arrive at the instant `due`. -/
inductive Awaits (settings : PortSettings) (holds : Nat → σ → Bytes)
    (octet : UInt8) (flushed due : Nat) (early : Prop) (now : Nat) :
    Phase → σ → Prop where
  | watching (looks : Nat) (state : σ) :
      flushed + looks * settings.tick ≤ now →
      (settings.wait < looks * settings.tick →
        flushed + settings.lastLook < due) →
      Brings holds octet due now state →
      Awaits settings holds octet flushed due early now
        (.watching (settings.wait - (looks * settings.tick : Nat))) state
  | dozing (looks wake : Nat) (state : σ) :
      looks * settings.tick ≤ settings.wait →
      flushed + looks * settings.tick + settings.tick ≤ wake →
      (settings.wait < looks * settings.tick + settings.tick →
        flushed + settings.lastLook < due) →
      Brings holds octet due now state →
      Awaits settings holds octet flushed due early now
        (.dozing (settings.wait - (looks * settings.tick : Nat)) wake) state
  | polling (reply : Bytes) (idle : Nat) (state : σ) :
      reply.head? = some octet ∨
        (reply = [] ∧ Polled settings holds octet early idle now now state) →
      Awaits settings holds octet flushed due early now
        (.polling reply idle) state
  | reading (reply : Bytes) (idle size deadline : Nat) (state : σ) :
      0 < size → reply.length < replyLimit → holds now state ≠ [] →
      reply.head? = some octet ∨
        (reply = [] ∧ (holds now state).head? = some octet) →
      Awaits settings holds octet flushed due early now
        (.reading reply idle size deadline) state
  | resting (reply : Bytes) (idle wake : Nat) (state : σ) :
      reply.head? = some octet ∨
        (reply = [] ∧ Polled settings holds octet early idle wake now state) →
      Awaits settings holds octet flushed due early now
        (.resting reply idle wake) state

variable {settings : PortSettings} {line : Line σ} {holds : Nat → σ → Bytes}
  {octet : UInt8} {flushed due now next : Nat} {early : Prop} {phase : Phase}
  {state : σ}

theorem Polled.later {idle since : Nat}
    (polled : Polled settings holds octet early idle since now state)
    (passes : now ≤ next) :
    Polled settings holds octet early idle since next state := by
  obtain ⟨first, due, polls, count, bound, excuse, spent, brings⟩ := polled
  exact .intro first due polls count bound excuse spent (brings.later passes)

theorem Polled.since_le {idle since later : Nat}
    (polled : Polled settings holds octet early idle since now state)
    (passes : since ≤ later) :
    Polled settings holds octet early idle later now state := by
  obtain ⟨first, due, polls, count, bound, excuse, spent, brings⟩ := polled
  exact .intro first due polls count (Nat.le_trans bound passes) excuse spent
    brings

theorem Polled.start (brings : Brings holds octet due now state)
    (excuse : now + (idlePolls - 1) * settings.tick < due → early) :
    Polled settings holds octet early idlePolls now now state := by
  apply Polled.intro now due 0
  · exact Nat.zero_add idlePolls
  · rw [Nat.zero_mul]
    exact Nat.le_refl now
  · exact excuse
  · intro spent
    cases spent
  · exact brings

/-- One more look in vain. -/
theorem Polled.look {idle : Nat} (inflow : line.Inflow holds)
    (polled : Polled settings holds octet early (idle + 1) now now state)
    (empty : holds now state = []) :
    Polled settings holds octet early idle (now + settings.tick) now
      (line.available now state).line := by
  obtain ⟨first, due, polls, count, bound, excuse, _, brings⟩ := polled
  have before := brings.early empty
  apply Polled.intro first due (polls + 1)
  · omega
  · rw [Nat.succ_mul]
    omega
  · exact excuse
  · intro last
    -- The tenth look is nine ticks behind the first, and the octet is later.
    have all : polls = idlePolls - 1 := by omega
    apply excuse
    rw [← all]
    omega
  · exact brings.looked inflow

theorem Polled.first {idle : Nat} (inflow : line.Inflow holds)
    (polled : Polled settings holds octet early idle now now state)
    (unread : holds now state ≠ []) :
    (holds now state).head? = some octet := by
  obtain ⟨_, _, _, _, _, _, _, brings⟩ := polled
  exact brings.first inflow unread

theorem Awaits.later (inflow : line.Inflow holds)
    (awaits : Awaits settings holds octet flushed due early now phase state)
    (passes : now ≤ next) :
    Awaits settings holds octet flushed due early next phase state := by
  cases awaits with
  | watching looks state since late brings =>
      exact .watching looks state (Nat.le_trans since passes) late
        (brings.later passes)
  | dozing looks wake state inside since late brings =>
      exact .dozing looks wake state inside since late (brings.later passes)
  | polling reply idle state begins =>
      apply Awaits.polling
      rcases begins with started | ⟨empty, polled⟩
      · exact Or.inl started
      · exact Or.inr ⟨empty, (polled.later passes).since_le passes⟩
  | reading reply idle size deadline state positive room unread begins =>
      have grown := inflow.grows state passes
      apply Awaits.reading
      · exact positive
      · exact room
      · exact grown.ne_nil unread
      · rw [head?_of_part grown unread]
        exact begins
  | resting reply idle wake state begins =>
      apply Awaits.resting
      rcases begins with started | ⟨empty, polled⟩
      · exact Or.inl started
      · exact Or.inr ⟨empty, polled.later passes⟩

inductive Advances (settings : PortSettings) (holds : Nat → σ → Bytes)
    (octet : UInt8) (flushed due : Nat) (early : Prop) (now : Nat)
    (phase : Phase) : Step σ → Prop where
  | next (later : Phase) (wire : Wire σ) :
      later.rank < phase.rank →
      Awaits settings holds octet flushed due early now later wire.line →
      Advances settings holds octet flushed due early now phase
        (.next later wire)
  | wait (wire : Wire σ) (wake : Nat) :
      now < wake → phase.wake? = some wake →
      Awaits settings holds octet flushed due early now phase wire.line →
      Advances settings holds octet flushed due early now phase
        (.wait phase wire wake)
  | done (reply : Bytes) (wire : Wire σ) :
      reply.head? = some octet ∨ (reply = [] ∧ early) →
      Advances settings holds octet flushed due early now phase
        (.done (.ok reply) wire)

theorem look_succeeds (inflow : line.Inflow holds) {failure : Failure} :
    (line.available now state).value ≠ .error failure := by
  intro failed
  obtain ⟨count, found, _⟩ := inflow.looks now state
  rw [failed] at found
  cases found

theorem empty_of_look (inflow : line.Inflow holds)
    (value : (line.available now state).value = .ok 0) :
    holds now state = [] := by
  obtain ⟨count, found, zero⟩ := inflow.looks now state
  rw [value] at found
  cases found
  exact zero.mp rfl

theorem unread_of_look (inflow : line.Inflow holds) {count : Nat}
    (value : (line.available now state).value = .ok (count + 1)) :
    holds now state ≠ [] := by
  intro empty
  obtain ⟨more, found, zero⟩ := inflow.looks now state
  rw [value] at found
  cases found
  cases zero.mpr empty

/-- The last look is not missed: as long as the octet has not arrived before
it, there is time for another one. -/
theorem time_for_look {looks : Nat}
    (since : flushed + looks * settings.tick < due)
    (inTime : due ≤ flushed + settings.lastLook) :
    looks * settings.tick + settings.tick ≤ settings.wait := by
  unfold PortSettings.lastLook at inTime
  have before : looks * settings.tick <
      settings.wait / settings.tick * settings.tick := by omega
  have room : looks + 1 ≤ settings.wait / settings.tick :=
    Nat.lt_of_mul_lt_mul_right before
  calc
    looks * settings.tick + settings.tick = (looks + 1) * settings.tick :=
      (Nat.succ_mul looks settings.tick).symm
    _ ≤ settings.wait / settings.tick * settings.tick :=
      Nat.mul_le_mul_right settings.tick room
    _ ≤ settings.wait := Nat.div_mul_le_self settings.wait settings.tick

variable {request : Bytes} {wire : Wire σ} {result : Step σ}

private theorem watching_advances {looks : Nat} (inflow : line.Inflow holds)
    (since : flushed + looks * settings.tick ≤ now)
    (late : settings.wait < looks * settings.tick →
      flushed + settings.lastLook < due)
    (brings : Brings holds octet due now wire.line)
    (heard : wire.ready = true → holds now wire.line = [] →
      now + (idlePolls - 1) * settings.tick < due → early)
    (raised : flushed + settings.lastLook < due →
      (settings.wait : Int) < (looks * settings.tick : Nat) →
        wire.ready = true)
    (moves : Moves settings line now request wire
      (.watching (settings.wait - (looks * settings.tick : Nat))) result) :
    Advances settings holds octet flushed due early now
      (.watching (settings.wait - (looks * settings.tick : Nat))) result := by
  cases moves with
  | hears _ ready =>
      apply Advances.next
      · simp [Phase.rank, replyLimit, idlePolls]
        omega
      · apply Awaits.polling
        refine Or.inr ⟨rfl, ?_⟩
        by_cases empty : holds now wire.line = []
        · exact Polled.start brings (heard ready empty)
        · have found := Brings.of_first inflow (brings.first inflow empty)
          apply Polled.start found
          omega
  | watchExpires _ silent elapsed =>
      have ready := raised (late (by omega)) (by omega)
      rw [silent] at ready
      cases ready
  | watchFails _ failure _ _ value =>
      exact (look_succeeds inflow value).elim
  | watches _ silent still value =>
      have empty := empty_of_look inflow value
      have before := brings.early empty
      apply Advances.next
      · simp [Phase.rank]
      · rw [Wire.take_line]
        apply Awaits.dozing
        · omega
        · omega
        · intro elapsed
          apply Nat.lt_of_not_le
          intro inTime
          have room := time_for_look
            (Nat.lt_of_le_of_lt since before) inTime
          omega
        · exact brings.looked inflow
  | finds _ count silent still value =>
      have unread := unread_of_look inflow value
      have found := Brings.of_first inflow (brings.first inflow unread)
      apply Advances.next
      · simp [Phase.rank, replyLimit, idlePolls]
        omega
      · apply Awaits.polling
        right
        refine ⟨rfl, ?_⟩
        simp only [Wire.take_line]
        apply Polled.start (found.looked inflow)
        omega

private theorem dozing_advances {looks wake : Nat}
    (inside : looks * settings.tick ≤ settings.wait)
    (since : flushed + looks * settings.tick + settings.tick ≤ wake)
    (late : settings.wait < looks * settings.tick + settings.tick →
      flushed + settings.lastLook < due)
    (brings : Brings holds octet due now wire.line)
    (moves : Moves settings line now request wire
      (.dozing (settings.wait - (looks * settings.tick : Nat)) wake) result) :
    Advances settings holds octet flushed due early now
      (.dozing (settings.wait - (looks * settings.tick : Nat)) wake)
      result := by
  cases moves with
  | wakes _ _ awake =>
      have next : ((settings.wait : Int) - (looks * settings.tick : Nat)) -
          settings.tick =
          settings.wait - ((looks + 1) * settings.tick : Nat) := by
        rw [Nat.succ_mul]
        omega
      rw [next]
      apply Advances.next
      · have passes := settings.tick_pos
        simp only [Phase.rank, Nat.succ_mul]
        omega
      · apply Awaits.watching
        · rw [Nat.succ_mul]
          omega
        · rw [Nat.succ_mul]
          exact late
        · exact brings
  | dozes _ _ asleep =>
      apply Advances.wait
      · exact asleep
      · rfl
      · exact .dozing looks wake wire.line inside since late brings

private theorem polling_advances {reply : Bytes} {idle : Nat}
    (inflow : line.Inflow holds)
    (begins : reply.head? = some octet ∨ (reply = [] ∧
      Polled settings holds octet early idle now now wire.line))
    (moves : Moves settings line now request wire (.polling reply idle)
      result) :
    Advances settings holds octet flushed due early now
      (.polling reply idle) result := by
  cases moves with
  | finishes _ _ last =>
      apply Advances.done
      rcases begins with started | ⟨rfl, polled⟩
      · exact Or.inl started
      · obtain ⟨_, _, _, _, _, _, spent, _⟩ := polled
        right
        refine ⟨rfl, spent ?_⟩
        rcases last with none | full
        · exact none
        · cases full
  | pollFails _ idle failure _ value =>
      exact (look_succeeds inflow value).elim
  | pollsNothing _ idle room value =>
      have empty := empty_of_look inflow value
      apply Advances.next
      · simp only [Phase.rank]
        omega
      · apply Awaits.resting
        rw [Wire.take_line]
        rcases begins with started | ⟨rfl, polled⟩
        · exact Or.inl started
        · exact Or.inr ⟨rfl, polled.look inflow empty⟩
  | polls _ idle count room value =>
      have unread := unread_of_look inflow value
      have grown := inflow.keeps wire.line (Nat.le_refl now)
      apply Advances.next
      · simp only [Phase.rank]
        omega
      · rw [Wire.take_line]
        apply Awaits.reading
        · simp only [chunkSize]
          omega
        · exact room
        · exact grown.ne_nil unread
        · rcases begins with started | ⟨rfl, polled⟩
          · exact Or.inl started
          · right
            rw [head?_of_part grown unread]
            exact ⟨rfl, polled.first inflow unread⟩

private theorem reading_advances {reply : Bytes}
    {idle size deadline : Nat} (inflow : line.Inflow holds)
    (positive : 0 < size) (room : reply.length < replyLimit)
    (unread : holds now wire.line ≠ [])
    (begins : reply.head? = some octet ∨ (reply = [] ∧
      (holds now wire.line).head? = some octet))
    (moves : Moves settings line now request wire
      (.reading reply idle size deadline) result) :
    Advances settings holds octet flushed due early now
      (.reading reply idle size deadline) result := by
  obtain ⟨given, some_, part, ready⟩ := inflow.reads wire.line positive unread
  cases moves with
  | readFails _ _ _ _ fault value =>
      rw [ready] at value
      cases value
  | readsNothing _ _ _ _ fruitless =>
      rcases fruitless with value | ⟨_, wake, value⟩
      · rw [ready] at value
        cases value
        exact (some_ rfl).elim
      · rw [ready] at value
        cases value
  | reads _ _ _ _ octets more value =>
      rw [ready] at value
      cases value
      have long := List.length_pos_iff.mpr some_
      apply Advances.next
      · simp only [Phase.rank, replyLimit, idlePolls, List.length_append]
          at room ⊢
        omega
      · apply Awaits.resting
        left
        rcases begins with started | ⟨rfl, first⟩
        · rw [List.head?_append, started]
          rfl
        · rw [List.nil_append, ← head?_of_part part some_]
          exact first
  | readWaits _ _ _ _ wake _ value =>
      rw [ready] at value
      cases value

private theorem resting_advances {reply : Bytes} {idle wake : Nat}
    (begins : reply.head? = some octet ∨ (reply = [] ∧
      Polled settings holds octet early idle wake now wire.line))
    (moves : Moves settings line now request wire (.resting reply idle wake)
      result) :
    Advances settings holds octet flushed due early now
      (.resting reply idle wake) result := by
  cases moves with
  | resumes _ _ _ awake =>
      apply Advances.next
      · simp only [Phase.rank]
        omega
      · apply Awaits.polling
        rcases begins with started | ⟨rfl, polled⟩
        · exact Or.inl started
        · exact Or.inr ⟨rfl, polled.since_le awake⟩
  | rests _ _ _ asleep =>
      apply Advances.wait
      · exact asleep
      · rfl
      · exact .resting reply idle wake wire.line begins

/-- An exchange that awaits an octet goes on awaiting it until it returns a
reply, and never fails. -/
theorem Awaits.advances (inflow : line.Inflow holds) (request : Bytes)
    (awaits : Awaits settings holds octet flushed due early now phase
      wire.line)
    (heard : ∀ remaining, phase = .watching remaining → wire.ready = true →
      holds now wire.line = [] →
        now + (idlePolls - 1) * settings.tick < due → early)
    (raised : flushed + settings.lastLook < due →
      ∀ remaining, phase = .watching remaining → remaining < 0 →
        wire.ready = true) :
    Advances settings holds octet flushed due early now phase
      (step settings line now request phase wire) := by
  have moves := step_moves settings line now request phase wire
  cases awaits with
  | watching looks state since late brings =>
      apply watching_advances inflow since late brings
      · exact heard _ rfl
      · intro missed elapsed
        exact raised missed _ rfl (by omega)
      · exact moves
  | dozing looks wake state inside since late brings =>
      exact dozing_advances inside since late brings moves
  | polling reply idle state begins =>
      exact polling_advances inflow begins moves
  | reading reply idle size deadline state positive room unread begins =>
      exact reading_advances inflow positive room unread begins moves
  | resting reply idle wake state begins =>
      exact resting_advances begins moves

end Exchange

namespace Worker

/-- An instant at which a worker gets a turn, and the events since its turn
before. -/
structure Beat where
  instant : Nat
  events : List PortEvent

/-- A worker that gets its turns from a clock. -/
structure Course (σ : Type) where
  settings : PortSettings
  line : Line σ
  worker : Worker
  wire : Wire σ
  beats : Nat → Beat

structure Service (σ : Type) where
  worker : Worker
  wire : Wire σ
  answers : List CommandAnswer

namespace Course

def before (course : Course σ) : Nat → Service σ
  | 0 =>
      { worker := course.worker
        wire := course.wire
        answers := [] }
  | index + 1 =>
      let service := course.before index
      let beat := course.beats index
      let progress := service.worker.step course.settings course.line
        beat.instant (beat.events.foldl Wire.hear service.wire)
      { worker := progress.worker
        wire := progress.wire
        answers := service.answers ++ progress.answers }

def found (course : Course σ) (index : Nat) : Wire σ :=
  (course.beats index).events.foldl Wire.hear (course.before index).wire

/-- Time passes and does not stop. -/
structure Passes (course : Course σ) : Prop where
  ordered : ∀ index,
    (course.beats index).instant ≤ (course.beats (index + 1)).instant
  endless : ∀ instant, ∃ index, instant ≤ (course.beats index).instant

/-- A beat, behind the one at which the request of a command was sent, with a
look whether data are there. -/
structure Looks (course : Course σ) (command : Command) (sent look : Nat)
    (remaining : Int) : Prop where
  behind : sent < look
  unanswered :
    (course.before look).answers = (course.before (sent + 1)).answers
  watching : (course.before look).worker.stage =
    .busy command (.watching remaining)

variable {course : Course σ} {command : Command} {phase : Exchange.Phase}
  {index : Nat}

theorem Passes.le (passes : course.Passes) {later : Nat}
    (behind : index ≤ later) :
    (course.beats index).instant ≤ (course.beats later).instant := by
  induction behind with
  | refl => exact Nat.le_refl _
  | step _ induction => exact Nat.le_trans induction (passes.ordered _)

@[simp] theorem found_line (course : Course σ) (index : Nat) :
    (course.found index).line = (course.before index).wire.line := by
  simp [found]

abbrev stepAt (course : Course σ) (command : Command)
    (phase : Exchange.Phase) (index : Nat) : Exchange.Step σ :=
  Exchange.step course.settings course.line (course.beats index).instant
    command.request phase (course.found index)

theorem before_of_goesOn {later : Exchange.Phase} {wire : Wire σ}
    (busy : (course.before index).worker.stage = .busy command phase)
    (goes : (course.stepAt command phase index).goesOn? =
      some (later, wire)) :
    (course.before (index + 1)).worker.stage = .busy command later ∧
      (course.before (index + 1)).wire = wire ∧
      (course.before (index + 1)).answers =
        (course.before index).answers := by
  cases step : course.stepAt command phase index with
  | next other after =>
      rw [step] at goes
      cases goes
      simp only [stepAt, found] at step
      simp [before, Worker.step, busy, step]
  | wait other after wake =>
      rw [step] at goes
      cases goes
      simp only [stepAt, found] at step
      simp [before, Worker.step, busy, step]
  | done outcome after =>
      rw [step] at goes
      cases goes

theorem before_of_done {outcome : Except Failure Bytes} {wire : Wire σ}
    (busy : (course.before index).worker.stage = .busy command phase)
    (step : course.stepAt command phase index = .done outcome wire) :
    (course.before (index + 1)).answers = (course.before index).answers ++
      [{ number := command.number
         outcome := outcome }] := by
  simp only [stepAt, found] at step
  simp [before, Worker.step, busy, step, answer]

end Course

section

variable {course : Course σ} {holds : Nat → σ → Bytes} {command : Command}
  {octet : UInt8} {sent due : Nat}

/-- A look found the flag raised without any data, long before the octet
arrived. -/
def Course.Misled (course : Course σ) (holds : Nat → σ → Bytes)
    (command : Command) (sent due : Nat) : Prop :=
  ∃ look remaining, course.Looks command sent look remaining ∧
    (course.found look).ready = true ∧
    holds (course.beats look).instant (course.found look).line = [] ∧
    (course.beats look).instant +
      (Exchange.idlePolls - 1) * course.settings.tick < due

/-- The exchange of a command stands at a phase and awaits an octet. -/
structure Course.Stands (course : Course σ) (holds : Nat → σ → Bytes)
    (command : Command) (octet : UInt8) (sent due index : Nat)
    (phase : Exchange.Phase) : Prop where
  behind : sent < index
  unanswered :
    (course.before index).answers = (course.before (sent + 1)).answers
  busy : (course.before index).worker.stage = .busy command phase
  awaits : Exchange.Awaits course.settings holds octet
    (course.beats sent).instant due (course.Misled holds command sent due)
    (course.beats index).instant phase (course.before index).wire.line

/-- The command was answered with data that begin with an octet, or with none
if the worker was misled. -/
def Course.Answered (course : Course σ) (holds : Nat → σ → Bytes)
    (command : Command) (octet : UInt8) (sent due index : Nat) : Prop :=
  ∃ data, (course.before index).answers =
      (course.before (sent + 1)).answers ++
        [{ number := command.number
           outcome := .ok data }] ∧
    (data.head? = some octet ∨
      (data = [] ∧ course.Misled holds command sent due))

namespace Course

variable {phase later : Exchange.Phase} {index : Nat}

theorem Stands.goesOn (stands : course.Stands holds command octet sent due
      index phase)
    (passes : course.Passes) (inflow : course.line.Inflow holds)
    {wire : Wire σ}
    (goes : (course.stepAt command phase index).goesOn? = some (later, wire))
    (awaits : Exchange.Awaits course.settings holds octet
      (course.beats sent).instant due
      (course.Misled holds command sent due)
      (course.beats index).instant later wire.line) :
    course.Stands holds command octet sent due (index + 1) later := by
  obtain ⟨busy, rfl, unanswered⟩ := before_of_goesOn stands.busy goes
  constructor
  · exact Nat.lt_succ_of_lt stands.behind
  · rw [unanswered, stands.unanswered]
  · exact busy
  · exact awaits.later inflow (passes.ordered index)

/-- What a beat makes of an exchange that awaits an octet. -/
theorem Stands.beat (stands : course.Stands holds command octet sent due
      index phase)
    (passes : course.Passes) (inflow : course.line.Inflow holds)
    (raised : (course.beats sent).instant + course.settings.lastLook < due →
      ∀ look remaining, course.Looks command sent look remaining →
        remaining < 0 → (course.found look).ready = true) :
    (∃ later, course.Stands holds command octet sent due (index + 1) later ∧
      (later.rank < phase.rank ∨ later = phase ∧ ∃ wake,
        phase.wake? = some wake ∧ (course.beats index).instant < wake)) ∨
      course.Answered holds command octet sent due (index + 1) := by
  have awaits := stands.awaits
  rw [← course.found_line] at awaits
  have looks : ∀ remaining, phase = .watching remaining →
      course.Looks command sent index remaining := by
    rintro remaining rfl
    exact ⟨stands.behind, stands.unanswered, stands.busy⟩
  have advances := awaits.advances inflow command.request
    (fun remaining watching ready empty before =>
      ⟨index, remaining, looks remaining watching, ready, empty, before⟩)
    (fun missed remaining watching elapsed =>
      raised missed index remaining (looks remaining watching) elapsed)
  generalize step : Exchange.step course.settings course.line
    (course.beats index).instant command.request phase (course.found index) =
      result at advances
  cases advances with
  | next later wire lower awaits =>
      left
      refine ⟨later, ?_, Or.inl lower⟩
      apply stands.goesOn passes inflow _ awaits
      rw [stepAt, step]
      rfl
  | wait wire wake asleep waits awaits =>
      left
      refine ⟨phase, ?_, Or.inr ⟨rfl, wake, waits, asleep⟩⟩
      apply stands.goesOn passes inflow _ awaits
      rw [stepAt, step]
      rfl
  | done data wire begins =>
      right
      refine ⟨data, ?_, begins⟩
      rw [before_of_done stands.busy step, stands.unanswered]

theorem Stands.answered (passes : course.Passes)
    (inflow : course.line.Inflow holds)
    (raised : (course.beats sent).instant + course.settings.lastLook < due →
      ∀ look remaining, course.Looks command sent look remaining →
        remaining < 0 → (course.found look).ready = true)
    (rank : Nat) :
    ∀ {phase : Exchange.Phase} {index : Nat}, phase.rank = rank →
      course.Stands holds command octet sent due index phase →
        ∃ last, sent < last ∧
          course.Answered holds command octet sent due last := by
  -- The outer induction is on the rank, which waits leave as it is; the inner
  -- one is on the beats up to one at which the wait is over.
  induction rank using Nat.strongRecOn with
  | ind rank lower =>
      intro phase index ranked stands
      obtain ⟨target, awake⟩ := passes.endless (phase.wake?.getD 0)
      have near : ∃ distance, target ≤ index + distance :=
        ⟨target, Nat.le_add_left target index⟩
      obtain ⟨distance, near⟩ := near
      induction distance generalizing index with
      | zero =>
          rcases stands.beat passes inflow raised with
            ⟨later, next, less | ⟨_, wake, waits, asleep⟩⟩ | answered
          · exact lower later.rank (ranked ▸ less) rfl next
          · have reached := passes.le (Nat.add_zero index ▸ near)
            rw [waits, Option.getD_some] at awake
            omega
          · exact ⟨index + 1, Nat.lt_succ_of_lt stands.behind, answered⟩
      | succ distance nearer =>
          rcases stands.beat passes inflow raised with
            ⟨later, next, less | ⟨rfl, _⟩⟩ | answered
          · exact lower later.rank (ranked ▸ less) rfl next
          · exact nearer next (by omega)
          · exact ⟨index + 1, Nat.lt_succ_of_lt stands.behind, answered⟩

theorem stands_of_arrival (passes : course.Passes)
    (inflow : course.line.Inflow holds)
    (short : course.settings.wait < 0x8000000000000000) {time : Nat}
    (watching : (course.before (sent + 1)).worker.stage =
      .busy command (.watching (Exchange.watchTime course.settings)))
    (arrives : (holds ((course.beats sent).instant + time)
      (course.before (sent + 1)).wire.line).head? = some octet) :
    course.Stands holds command octet sent
      ((course.beats sent).instant + time) (sent + 1)
      (.watching (Exchange.watchTime course.settings)) := by
  have started : Exchange.watchTime course.settings =
      course.settings.wait - ((0 * course.settings.tick : Nat) : Int) := by
    simp [Exchange.watchTime, short]
  constructor
  · exact Nat.lt_succ_self sent
  · rfl
  · exact watching
  · rw [started]
    apply Exchange.Awaits.watching
    · simpa using passes.ordered sent
    · intro elapsed
      simp at elapsed
    · intro later arrived _
      rw [head?_of_part (inflow.grows _ arrived) (ne_nil_of_head? arrives)]
      exact arrives

end Course

end

end Worker

structure TimedLine where
  octets : List (Nat × UInt8)

namespace TimedLine

def due (now : Nat) (octets : List (Nat × UInt8)) : List (Nat × UInt8) :=
  octets.takeWhile fun entry => entry.1 ≤ now

def holds (now : Nat) (line : TimedLine) : Bytes :=
  (due now line.octets).map Prod.snd

def interface : Line TimedLine :=
  { available := fun now line =>
      { value := .ok (holds now line).length
        line := line
        events := [] }
    read := fun now size line =>
      { value := .ready (.ok ((holds now line).take size))
        line :=
          { octets := line.octets.drop (min size (holds now line).length) }
        events := [] }
    write := fun _ request line =>
      { value := .ready (.ok request.length)
        line := line
        events := [] }
    flush := fun _ line =>
      { value := .ready (.ok ())
        line := line
        events := [] } }

theorem due_grows {now later : Nat} (passes : now ≤ later)
    (octets : List (Nat × UInt8)) : due now octets <+: due later octets := by
  induction octets with
  | nil => exact List.prefix_refl _
  | cons entry others induction =>
      unfold due at induction ⊢
      by_cases arrived : entry.1 ≤ now
      · have still := Nat.le_trans arrived passes
        simpa [arrived, still] using induction
      · simp [arrived]

theorem inflow : interface.Inflow holds := by
  constructor
  · intro now later line passes
    exact (due_grows passes line.octets).map Prod.snd
  · intro now line
    exact ⟨_, rfl, List.length_eq_zero_iff⟩
  · intro now later line _
    exact List.prefix_refl _
  · intro now size line positive unread
    refine ⟨(holds now line).take size, ?_, List.take_prefix size _, rfl⟩
    intro nothing
    rcases List.take_eq_nil_iff.mp nothing with zero | empty
    · exact Nat.ne_of_gt positive zero
    · exact unread empty

def settings (wait : UInt64) : PortSettings :=
  { PortSettings.named "timed" with responseWait := wait }

def command : Command :=
  { number := 1
    request := [1, 3, 0, 0, 0, 2, 196, 11] }

def course (wait : UInt64) (announced : Option Nat)
    (octets : List (Nat × UInt8)) : Worker.Course TimedLine :=
  { settings := settings wait
    line := interface
    worker := { Worker.fresh with stage := .busy command Exchange.start }
    wire := { Wire.fresh { octets := octets } with listening := true }
    beats := fun index =>
      { instant := index / 12
        events :=
          if announced.any fun instant => index = 12 * instant then
            [.dataAvailable true false]
          else [] } }

theorem passes (wait : UInt64) (announced : Option Nat)
    (octets : List (Nat × UInt8)) :
    (course wait announced octets).Passes := by
  constructor
  · intro index
    exact Nat.div_le_div_right (Nat.le_succ index)
  · intro instant
    exact ⟨instant * 12, by simp [course]⟩

end TimedLine

end MeterLine
