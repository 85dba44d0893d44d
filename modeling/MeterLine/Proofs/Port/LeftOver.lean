import MeterLine.Proofs.Port.Pace

/-!
# Left-over octets

An exchange begins with reading and dropping what is left in the input of its
line.  A line that gives octets at once as long as it holds some is emptied in
no time, and is then as if its input had been empty from the start; the flag is
put down with the last look.  From there on the exchange takes the same steps
as one that found nothing: a relation between the two wires is kept by every
step, so the outcome, its instant and the octets that are written are the same.
-/

namespace MeterLine

/-- Two states of a line hold the same octets at an instant, and the same lies
ahead of them. -/
structure Line.Alike (holds : Nat → σ → Bytes) (ahead : Nat → σ → ρ)
    (now : Nat) (state other : σ) : Prop where
  input : holds now state = holds now other
  future : ahead now state = ahead now other

structure LineAnswer.Alike (alike : σ → σ → Prop)
    (answer other : LineAnswer σ α) : Prop where
  value : answer.value = other.value
  events : answer.events = other.events
  line : alike answer.line other.line

/-- What a line does is told by the octets that it holds and by what lies ahead
of it.  A look leaves both as they are, and a read takes octets off the input,
at once if it does not fail. -/
structure Line.Regular (line : Line σ) (holds : Nat → σ → Bytes)
    (ahead : Nat → σ → ρ) : Prop where
  passes : ∀ {now next : Nat} {state other : σ}, now ≤ next →
    Alike holds ahead now state other → Alike holds ahead next state other
  available : ∀ {now : Nat} {state other : σ},
    Alike holds ahead now state other →
      (line.available now state).Alike (Alike holds ahead now)
        (line.available now other)
  read : ∀ {now : Nat} (size : Nat) {state other : σ},
    Alike holds ahead now state other →
      (line.read now size state).Alike (Alike holds ahead now)
        (line.read now size other)
  write : ∀ {now : Nat} (octets : Bytes) {state other : σ},
    Alike holds ahead now state other →
      (line.write now octets state).Alike (Alike holds ahead now)
        (line.write now octets other)
  flush : ∀ {now : Nat} {state other : σ},
    Alike holds ahead now state other →
      (line.flush now state).Alike (Alike holds ahead now)
        (line.flush now other)
  counts : ∀ {now count : Nat} {state : σ},
    (line.available now state).value = .ok count →
      (count = 0 ↔ holds now state = [])
  looks : ∀ (now : Nat) (state : σ),
    Alike holds ahead now (line.available now state).line state
  gives : ∀ {now size : Nat} {state : σ}, 0 < size → holds now state ≠ [] →
    (∃ fault, (line.read now size state).value = .ready (.error fault)) ∨
      ∃ octets, octets ≠ [] ∧
        (line.read now size state).value = .ready (.ok octets) ∧
        holds now (line.read now size state).line =
          (holds now state).drop octets.length ∧
        ahead now (line.read now size state).line = ahead now state

theorem Line.Alike.symm {holds : Nat → σ → Bytes} {ahead : Nat → σ → ρ}
    {now : Nat} {state other : σ} (alike : Alike holds ahead now state other) :
    Alike holds ahead now other state :=
  ⟨alike.input.symm, alike.future.symm⟩

/-- Two wires that differ in nothing that an exchange can see. -/
structure Wire.Alike (alike : σ → σ → Prop) (wire other : Wire σ) : Prop where
  ready : wire.ready = other.ready
  listening : wire.listening = other.listening
  line : alike wire.line other.line

namespace Wire

variable {alike : σ → σ → Prop} {wire other : Wire σ}

@[simp] theorem listening_hear (wire : Wire σ) (event : PortEvent) :
    (wire.hear event).listening = wire.listening := by
  unfold hear
  split
  · cases event <;> rfl
  · rfl

@[simp] theorem listening_foldl_hear (events : List PortEvent)
    (wire : Wire σ) :
    (events.foldl hear wire).listening = wire.listening := by
  induction events generalizing wire with
  | nil => rfl
  | cons event events induction =>
      rw [List.foldl_cons, induction, listening_hear]

@[simp] theorem listening_take (wire : Wire σ) (answer : LineAnswer σ α) :
    (wire.take answer).listening = wire.listening :=
  listening_foldl_hear _ _

theorem Alike.hear (same : wire.Alike alike other) (event : PortEvent) :
    (wire.hear event).Alike alike (other.hear event) := by
  unfold Wire.hear
  by_cases installed : wire.listening = true
  · rw [if_pos installed, if_pos (same.listening ▸ installed)]
    cases event with
    | dataAvailable now before => exact ⟨rfl, same.listening, same.line⟩
    | hardwareFault message => exact ⟨same.ready, same.listening, same.line⟩
  · rw [if_neg installed, if_neg (same.listening ▸ installed)]
    exact same

theorem Alike.heard (same : wire.Alike alike other)
    (events : List PortEvent) :
    (events.foldl Wire.hear wire).Alike alike
      (events.foldl Wire.hear other) := by
  induction events generalizing wire other with
  | nil => exact same
  | cons event events induction => exact induction (same.hear event)

theorem Alike.take {answer another : LineAnswer σ α}
    (same : wire.Alike alike other) (answers : answer.Alike alike another) :
    (wire.take answer).Alike alike (other.take another) := by
  have moved : Wire.Alike alike { wire with line := answer.line }
      { other with line := another.line } :=
    ⟨same.ready, same.listening, answers.line⟩
  unfold Wire.take
  rw [answers.events]
  exact moved.heard another.events

end Wire

namespace Exchange

/-- Two steps that come to the same, on wires that are alike. -/
inductive Step.Alike (alike : σ → σ → Prop) : Step σ → Step σ → Prop where
  | next (phase : Phase) (wire other : Wire σ) :
      wire.Alike alike other →
      Alike alike (.next phase wire) (.next phase other)
  | wait (phase : Phase) (wire other : Wire σ) (wake : Nat) :
      wire.Alike alike other →
      Alike alike (.wait phase wire wake) (.wait phase other wake)
  | done (outcome : Except Failure Bytes) (wire other : Wire σ) :
      wire.Alike alike other →
      Alike alike (.done outcome wire) (.done outcome other)

/-- What a step asks the clock for: a turn at once, or one at an instant. -/
def Step.asks : Step σ → Bool × Option Nat
  | .next _ _ => (true, none)
  | .wait _ _ wake => (false, some wake)
  | .done _ _ => (true, none)

theorem Step.Alike.done_or_goesOn {alike : σ → σ → Prop}
    {result companion : Step σ} (steps : result.Alike alike companion) :
    (∃ outcome wire other,
      result = .done outcome wire ∧ companion = .done outcome other) ∨
    ∃ later wire other, result.goesOn? = some (later, wire) ∧
      companion.goesOn? = some (later, other) ∧ wire.Alike alike other := by
  cases steps with
  | next later wire other same =>
      exact Or.inr ⟨later, wire, other, rfl, rfl, same⟩
  | wait later wire other wake same =>
      exact Or.inr ⟨later, wire, other, rfl, rfl, same⟩
  | done outcome wire other same =>
      exact Or.inl ⟨outcome, wire, other, rfl, rfl⟩

theorem Step.Alike.asks {alike : σ → σ → Prop} {result companion : Step σ}
    (steps : result.Alike alike companion) : result.asks = companion.asks := by
  cases steps <;> rfl

section

variable {settings : PortSettings} {line : Line σ} {now : Nat}
  {request : Bytes} {wire other : Wire σ} {holds : Nat → σ → Bytes}
  {ahead : Nat → σ → ρ}

theorem drained_alike {alike : σ → σ → Prop}
    (listening : wire.listening = other.listening)
    (line : alike wire.line other.line) :
    (drained settings now request wire).Alike alike
      (drained settings now request other) :=
  .next _ _ _ ⟨rfl, listening, line⟩

variable (regular : line.Regular holds ahead)
  (same : wire.Alike (Line.Alike holds ahead now) other)

include regular same

private theorem drain_alike :
    (drain settings line now request wire).Alike (Line.Alike holds ahead now)
      (drain settings line now request other) := by
  have answers := regular.available same.line
  have taken := same.take answers
  simp only [drain, ← answers.value]
  split
  · exact .done _ _ _ taken
  · exact drained_alike taken.listening taken.line
  · exact .next _ _ _ taken

private theorem discard_alike (size deadline : Nat) :
    (discard settings line now request size deadline wire).Alike
      (Line.Alike holds ahead now)
      (discard settings line now request size deadline other) := by
  have answers := regular.read size same.line
  have taken := same.take answers
  simp only [discard, ← answers.value]
  split
  · exact .done _ _ _ taken
  · split
    · exact drained_alike taken.listening taken.line
    · exact .next _ _ _ taken
  · split
    · exact drained_alike taken.listening taken.line
    · exact .wait _ _ _ _ taken

private theorem write_alike (rest : Bytes) (deadline : Nat) :
    (write settings line now rest deadline wire).Alike
      (Line.Alike holds ahead now)
      (write settings line now rest deadline other) := by
  have answers := regular.write rest same.line
  have taken := same.take answers
  simp only [write, expireWrite, ← answers.value]
  split
  · exact .next _ _ _ same
  · split
    · exact .done _ _ _ taken
    · exact .done _ _ _ taken
    · exact .next _ _ _ taken
    · split
      · exact .done _ _ _ ⟨taken.ready, taken.listening, taken.line⟩
      · exact .wait _ _ _ _ taken

private theorem flush_alike (deadline : Nat) :
    (flush settings line now request deadline wire).Alike
      (Line.Alike holds ahead now)
      (flush settings line now request deadline other) := by
  have answers := regular.flush same.line
  have taken := same.take answers
  simp only [flush, expireWrite, ← answers.value]
  split
  · exact .done _ _ _ taken
  · exact .next _ _ _ ⟨taken.ready, taken.listening, taken.line⟩
  · split
    · exact .done _ _ _ ⟨taken.ready, taken.listening, taken.line⟩
    · exact .wait _ _ _ _ taken

private theorem watch_alike (remaining : Int) :
    (watch settings line now remaining wire).Alike
      (Line.Alike holds ahead now)
      (watch settings line now remaining other) := by
  have answers := regular.available same.line
  have taken := same.take answers
  simp only [watch, ← answers.value, ← same.ready]
  split
  · exact .next _ _ _ same
  · split
    · exact .done _ _ _ ⟨same.ready, same.listening, same.line⟩
    · split
      · exact .done _ _ _ taken
      · exact .next _ _ _ taken
      · exact .next _ _ _ ⟨rfl, taken.listening, taken.line⟩

private theorem poll_alike (reply : Bytes) (idle : Nat) :
    (poll settings line now reply idle wire).Alike
      (Line.Alike holds ahead now)
      (poll settings line now reply idle other) := by
  have answers := regular.available same.line
  have taken := same.take answers
  have finished : (finish reply wire).Alike (Line.Alike holds ahead now)
      (finish reply other) :=
    .done _ _ _ ⟨same.ready, same.listening, same.line⟩
  cases idle with
  | zero => exact finished
  | succ idle =>
      simp only [poll, ← answers.value]
      split
      · exact finished
      · split
        · exact .done _ _ _ taken
        · exact .next _ _ _ taken
        · exact .next _ _ _ taken

private theorem read_alike (reply : Bytes) (idle size deadline : Nat) :
    (read settings line now reply idle size deadline wire).Alike
      (Line.Alike holds ahead now)
      (read settings line now reply idle size deadline other) := by
  have answers := regular.read size same.line
  have taken := same.take answers
  simp only [read, ← answers.value]
  split
  · exact .done _ _ _ taken
  · split
    · exact .next _ _ _ taken
    · exact .next _ _ _ taken
  · split
    · exact .next _ _ _ taken
    · exact .wait _ _ _ _ taken

/-- Exchanges on wires that are alike take the same step. -/
theorem step_alike (settings : PortSettings) (request : Bytes)
    (phase : Phase) :
    (step settings line now request phase wire).Alike
      (Line.Alike holds ahead now)
      (step settings line now request phase other) := by
  cases phase with
  | draining => exact drain_alike regular same
  | discarding size deadline => exact discard_alike regular same _ _
  | writing rest deadline => exact write_alike regular same _ _
  | flushing deadline => exact flush_alike regular same _
  | watching remaining => exact watch_alike regular same _
  | dozing remaining wake =>
      simp only [step]
      split
      · exact .next _ _ _ same
      · exact .wait _ _ _ _ same
  | polling reply idle => exact poll_alike regular same _ _
  | reading reply idle size deadline => exact read_alike regular same _ _ _ _
  | resting reply idle wake =>
      simp only [step]
      split
      · exact .next _ _ _ same
      · exact .wait _ _ _ _ same

end

theorem Moves.drains {settings : PortSettings} {line : Line σ} {now : Nat}
    {request : Bytes} {wire after : Wire σ} {phase later : Phase}
    {result : Step σ} {holds : Nat → σ → Bytes} {ahead : Nat → σ → ρ}
    (regular : line.Regular holds ahead)
    (moves : Moves settings line now request wire phase result)
    (goes : result.goesOn? = some (later, after))
    (drain : later.part = .drain)
    (unread : ∀ size deadline, phase = .discarding size deadline →
      0 < size ∧ holds now wire.line ≠ []) :
    result = .next later after ∧ after.listening = wire.listening ∧
      ahead now after.line = ahead now wire.line ∧
      ∀ size deadline, later = .discarding size deadline →
        0 < size ∧ holds now after.line ≠ [] := by
  cases moves with
  | drainFinds count found =>
      cases goes
      have same := regular.looks now wire.line
      refine ⟨rfl, by simp, by rw [Wire.take_line, same.future], ?_⟩
      rintro _ _ ⟨⟩
      refine ⟨by simp [chunkSize], ?_⟩
      rw [Wire.take_line, same.input]
      intro empty
      cases (regular.counts found).mpr empty
  | discards size deadline octets more ready =>
      cases goes
      obtain ⟨positive, some_⟩ := unread size deadline rfl
      refine ⟨rfl, by simp, ?_, ?_⟩
      · rcases regular.gives positive some_ with
          ⟨fault, failed⟩ | ⟨_, _, _, _, future⟩
        · rw [ready] at failed
          cases failed
        · rw [Wire.take_line, future]
      · intro _ _ discarding
        cases discarding
  | discardWaits size deadline wake early pending =>
      obtain ⟨positive, some_⟩ := unread size deadline rfl
      rcases regular.gives positive some_ with
        ⟨fault, failed⟩ | ⟨_, _, ready, _⟩
      · rw [pending] at failed
        cases failed
      · rw [pending] at ready
        cases ready
  | _ =>
      cases goes
      all_goals cases drain

theorem accepted_alike {line : Line σ} {now : Nat} {wire other : Wire σ}
    {holds : Nat → σ → Bytes} {ahead : Nat → σ → ρ}
    (regular : line.Regular holds ahead)
    (same : wire.Alike (Line.Alike holds ahead now) other) (phase : Phase) :
    accepted line now phase wire = accepted line now phase other := by
  cases phase with
  | writing rest deadline =>
      simp only [accepted, (regular.write rest same.line).value]
  | _ => rfl

end Exchange

namespace Worker

namespace Course

/-- The octets that the line takes at a beat. -/
def accepts (course : Course σ) (index : Nat) : Bytes :=
  match (course.before index).worker.stage with
  | .busy _ phase =>
      Exchange.accepted course.line (course.beats index).instant phase
        (course.found index)
  | _ => []

/-- The octets that the line takes at so many beats from one on. -/
def output (course : Course σ) : Nat → Nat → Bytes
  | _, 0 => []
  | first, count + 1 =>
      course.accepts first ++ course.output (first + 1) count

def asks (course : Course σ) (index : Nat) : Bool × Option Nat :=
  ((course.turn index).more, (course.turn index).wake)

theorem asks_of_busy {course : Course σ} {command : Command}
    {phase : Exchange.Phase} {index : Nat}
    (busy : (course.before index).worker.stage = .busy command phase) :
    course.asks index = (course.stepAt command phase index).asks := by
  cases step : course.stepAt command phase index <;>
    simp only [stepAt] at step <;>
    simp [asks, turn, Worker.step, busy, step, Exchange.Step.asks, answer]

/-- The clocks of two courses run alike from two beats on: as long as both
workers asked for the same, the next turn comes at the same instant, and with
the same events. -/
def SameClock (course other : Course σ) (index place : Nat) : Prop :=
  ∀ count, (∀ earlier ≤ count,
    course.asks (index + earlier) = other.asks (place + earlier)) →
      course.beats (index + count + 1) = other.beats (place + count + 1)

theorem instant_alone_congr {settings another : PortSettings}
    {line further : Line σ} {worker peer : Worker} {wire also : Wire σ}
    {index place : Nat}
    (instant : ((alone settings line worker wire).beats index).instant =
      ((alone another further peer also).beats place).instant)
    (asked : (alone settings line worker wire).asks index =
      (alone another further peer also).asks place) :
    ((alone settings line worker wire).beats (index + 1)).instant =
      ((alone another further peer also).beats (place + 1)).instant := by
  obtain ⟨more, wake⟩ := Prod.ext_iff.mp asked
  simp only [asks] at more wake
  rw [instant_alone_succ, instant_alone_succ, more, wake, instant]

namespace SameClock

variable {course other : Course σ} {index place : Nat}

theorem symm (clock : SameClock course other index place) :
    SameClock other course place index :=
  fun count asked => (clock count fun earlier before =>
    (asked earlier before).symm).symm

theorem next (clock : SameClock course other index place)
    (asked : course.asks index = other.asks place) :
    course.beats (index + 1) = other.beats (place + 1) ∧
      SameClock course other (index + 1) (place + 1) := by
  constructor
  · apply clock 0
    intro earlier now
    rw [Nat.le_zero.mp now]
    exact asked
  · intro count more
    have later := clock (count + 1) (by
      intro earlier before
      cases earlier with
      | zero => exact asked
      | succ earlier =>
          rw [← Nat.succ_add_eq_add_succ, ← Nat.succ_add_eq_add_succ]
          exact more earlier (Nat.le_of_succ_le_succ before))
    rw [Nat.add_right_comm index, Nat.add_right_comm place]
    exact later

theorem of_alone {settings another : PortSettings}
    {line further : Line σ} {worker peer : Worker} {wire also : Wire σ}
    {index place : Nat}
    (instant : ((alone settings line worker wire).beats index).instant =
      ((alone another further peer also).beats place).instant) :
    SameClock (alone settings line worker wire)
      (alone another further peer also) index place := by
  intro count asked
  have together : ((alone settings line worker wire).beats
      (index + count + 1)).instant =
        ((alone another further peer also).beats
          (place + count + 1)).instant := by
    induction count with
    | zero => exact instant_alone_congr instant (asked 0 (Nat.le_refl 0))
    | succ count induction =>
        have before := induction fun earlier within =>
          asked earlier (Nat.le_succ_of_le within)
        exact instant_alone_congr before (asked (count + 1) (Nat.le_refl _))
  exact congrArg (Beat.mk · []) together

end SameClock

/-- In two courses the same command stands at the same phase, on wires that are
alike, at beats that are the same, and the clocks run alike from there on. -/
structure Beside (holds : Nat → σ → Bytes) (ahead : Nat → σ → ρ)
    (course other : Course σ) (command : Command) (index place : Nat)
    (phase : Exchange.Phase) : Prop where
  settings : course.settings = other.settings
  line : course.line = other.line
  driven : course.Driven
  drives : other.Driven
  here : (course.before index).worker.stage = .busy command phase
  there : (other.before place).worker.stage = .busy command phase
  wire : (course.before index).wire.Alike
    (Line.Alike holds ahead (course.beats index).instant)
    (other.before place).wire
  beat : course.beats index = other.beats place
  clock : SameClock course other index place

namespace Beside

variable {holds : Nat → σ → Bytes} {ahead : Nat → σ → ρ}
  {course other : Course σ} {command : Command} {index place : Nat}
  {phase : Exchange.Phase}

theorem symm (beside : Beside holds ahead course other command index place
    phase) : Beside holds ahead other course command place index phase := by
  obtain ⟨ready, listening, line⟩ := beside.wire
  rw [beside.beat] at line
  constructor
  · exact beside.settings.symm
  · exact beside.line.symm
  · exact beside.drives
  · exact beside.driven
  · exact beside.there
  · exact beside.here
  · exact ⟨ready.symm, listening.symm, line.symm⟩
  · exact beside.beat.symm
  · exact beside.clock.symm

theorem found (beside : Beside holds ahead course other command index place
    phase) :
    (course.found index).Alike
      (Line.Alike holds ahead (course.beats index).instant)
      (other.found place) := by
  rw [Course.found, Course.found, ← beside.beat]
  exact beside.wire.heard _

theorem accepts (regular : course.line.Regular holds ahead)
    (beside : Beside holds ahead course other command index place phase) :
    course.accepts index = other.accepts place := by
  simp only [Course.accepts, beside.here, beside.there, ← beside.line,
    ← beside.beat]
  exact Exchange.accepted_alike regular beside.found phase

theorem steps (regular : course.line.Regular holds ahead)
    (beside : Beside holds ahead course other command index place phase) :
    (course.stepAt command phase index).Alike
      (Line.Alike holds ahead (course.beats index).instant)
      (other.stepAt command phase place) := by
  rw [stepAt, stepAt, ← beside.settings, ← beside.line, ← beside.beat]
  exact Exchange.step_alike regular beside.found _ _ _

theorem goesOn (regular : course.line.Regular holds ahead)
    (beside : Beside holds ahead course other command index place phase)
    {later : Exchange.Phase} {wire another : Wire σ}
    (same : wire.Alike
      (Line.Alike holds ahead (course.beats index).instant) another)
    (goes : (course.stepAt command phase index).goesOn? = some (later, wire))
    (follows : (other.stepAt command phase place).goesOn? =
      some (later, another)) :
    Beside holds ahead course other command (index + 1) (place + 1)
      later := by
  obtain ⟨busy, after, _⟩ := before_of_goesOn beside.here goes
  obtain ⟨also, following, _⟩ := before_of_goesOn beside.there follows
  have asked : course.asks index = other.asks place := by
    rw [asks_of_busy beside.here, asks_of_busy beside.there]
    exact (beside.steps regular).asks
  obtain ⟨beat, clock⟩ := beside.clock.next asked
  constructor
  · exact beside.settings
  · exact beside.line
  · exact beside.driven
  · exact beside.drives
  · exact busy
  · exact also
  · rw [after, following]
    exact ⟨same.ready, same.listening,
      regular.passes (beside.driven.ordered index) same.line⟩
  · exact beat
  · exact clock

theorem step (regular : course.line.Regular holds ahead)
    (beside : Beside holds ahead course other command index place phase) :
    (∃ outcome wire another,
      course.stepAt command phase index = .done outcome wire ∧
        other.stepAt command phase place = .done outcome another) ∨
    ∃ later wire another,
      (course.stepAt command phase index).goesOn? = some (later, wire) ∧
        (other.stepAt command phase place).goesOn? = some (later, another) ∧
        Beside holds ahead course other command (index + 1) (place + 1)
          later := by
  rcases (beside.steps regular).done_or_goesOn with
    ends | ⟨later, wire, another, goes, follows, same⟩
  · exact Or.inl ends
  · exact Or.inr ⟨later, wire, another, goes, follows,
      beside.goesOn regular same goes follows⟩

/-- The outcome comes after as many beats and at the same instant, and the same
octets were taken by then. -/
theorem completes (regular : course.line.Regular holds ahead)
    {outcome : Except Failure Bytes} (count : Nat) :
    ∀ {index place : Nat} {phase : Exchange.Phase},
      Beside holds ahead course other command index place phase →
      course.Completes command index (index + count) outcome →
        other.Completes command place (place + count) outcome ∧
          course.beats (index + count) = other.beats (place + count) ∧
          course.output index (count + 1) =
            other.output place (count + 1) := by
  -- Both courses are looked at from their next beats on, so that the beats
  -- vary in the induction.
  induction count with
  | zero =>
      intro index place phase beside completes
      obtain ⟨final, wire, reaches, done⟩ := completes
      obtain rfl := reaches.unique (.begins phase beside.here)
      refine ⟨?_, beside.beat, congrArg (· ++ []) (beside.accepts regular)⟩
      rcases beside.step regular with
        ⟨other, _, another, ends, also⟩ | ⟨_, _, _, goes, _⟩
      · cases done.symm.trans ends
        exact .intro final another (.begins final beside.there) also
      · cases goes.symm.trans (congrArg Exchange.Step.goesOn? done)
  | succ count induction =>
      intro index place phase beside completes
      have within : index + 1 ≤ index + (count + 1) := by omega
      rcases beside.step regular with
        ⟨_, wire, another, ends, _⟩ | ⟨later, wire, another, goes, also, next⟩
      · obtain ⟨final, after, reaches, _⟩ := completes
        obtain ⟨⟨phase, reaches⟩, _⟩ :=
          reaches.since (Nat.le_succ index) within
        have last := Completes.le_last
          (.intro _ wire (.begins _ beside.here) ends) reaches
        exact absurd last (Nat.not_succ_le_self index)
      · obtain ⟨final, after, reaches, done⟩ := completes
        have onward := (reaches.since (Nat.le_succ index) within).2
        have rest : course.Completes command (index + 1)
            (index + 1 + count) outcome := by
          rw [Nat.succ_add_eq_add_succ]
          exact .intro final after onward done
        obtain ⟨⟨last, finish, arrives, stops⟩, beat, same⟩ :=
          induction next rest
        rw [Nat.succ_add_eq_add_succ, Nat.succ_add_eq_add_succ] at beat
        have first : other.Completes command place (place + (count + 1))
            outcome := by
          rw [← Nat.succ_add_eq_add_succ]
          exact .intro last finish
            (Reaches.trans
              (.goesOn later another (.begins phase beside.there) also)
              arrives) stops
        refine ⟨first, beat, ?_⟩
        calc
          course.output index (count + 1 + 1) =
              course.accepts index ++ course.output (index + 1) (count + 1) :=
            rfl
          _ = other.accepts place ++ other.output (place + 1) (count + 1) := by
            rw [beside.accepts regular, same]

end Beside

/-- The drain of a command is over at a beat: it looks and finds nothing. -/
structure RunsDry (course : Course σ) (command : Command)
    (first index : Nat) : Prop where
  reaches : course.Reaches command first index .draining
  empty : (course.line.available (course.beats index).instant
    (course.before index).wire.line).value = .ok 0

def DrainsSoundly (course : Course σ) (command : Command) (first : Nat) :
    Prop :=
  ∀ index phase failure wire, course.Reaches command first index phase →
    phase.part = .drain →
      course.stepAt command phase index ≠ .done (.error failure) wire

/-- A drain has changed nothing yet but the input of the line. -/
structure Drains (holds : Nat → σ → Bytes) (ahead : Nat → σ → ρ)
    (course : Course σ) (first index : Nat) (phase : Exchange.Phase) :
    Prop where
  instant : (course.beats index).instant = (course.beats first).instant
  listening : (course.before index).wire.listening =
    (course.before first).wire.listening
  future : ahead (course.beats first).instant (course.before index).wire.line =
    ahead (course.beats first).instant (course.before first).wire.line
  unread : ∀ size deadline, phase = .discarding size deadline →
    0 < size ∧
      holds (course.beats first).instant (course.before index).wire.line ≠ []

variable {holds : Nat → σ → Bytes} {ahead : Nat → σ → ρ}
  {course other : Course σ} {command : Command} {first index place : Nat}
  {phase : Exchange.Phase}

theorem listening_found (course : Course σ) (index : Nat) :
    (course.found index).listening =
      (course.before index).wire.listening :=
  Wire.listening_foldl_hear _ _

theorem Reaches.drained {between : Nat}
    (reaches : course.Reaches command first index phase)
    (drain : phase.part = .drain) (behind : first ≤ between)
    (within : between ≤ index) :
    ∃ earlier, course.Reaches command first between earlier ∧
      earlier.part = .drain := by
  obtain ⟨⟨earlier, before⟩, onward⟩ := reaches.since behind within
  have order := onward.order_le before.busy
  rw [drain] at order
  exact ⟨earlier, before,
    Exchange.Part.eq_of_order (Nat.le_zero.mp order)⟩

theorem Reaches.drains (regular : course.line.Regular holds ahead)
    (driven : course.Driven)
    (begun : (course.before first).worker.stage =
      .busy command Exchange.start)
    (reaches : course.Reaches command first index phase)
    (drain : phase.part = .drain) :
    Drains holds ahead course first index phase := by
  induction reaches with
  | begins phase busy =>
      cases begun.symm.trans busy
      exact ⟨rfl, rfl, rfl, nofun⟩
  | @goesOn index phase later wire reaches goes induction =>
      have next := reaches.goesOn later wire goes
      obtain ⟨earlier, before, drained⟩ :=
        next.drained drain reaches.le (Nat.le_succ index)
      obtain rfl := before.unique reaches
      obtain ⟨instant, listening, future, unread⟩ := induction drained
      obtain ⟨_, after, _⟩ := before_of_goesOn reaches.busy goes
      have moves := moves_of_step
        (rfl : course.stepAt command earlier index = _)
      obtain ⟨step, still, same, more⟩ := moves.drains regular goes drain (by
        rw [found_line, instant]
        exact unread)
      rw [found_line, instant] at same
      rw [instant] at more
      constructor
      · rw [driven.atOnce index
          ((turn_of_busy reaches.busy).1 later wire step), instant]
      · rw [after, still, listening_found, listening]
      · rw [after, same, future]
      · rw [after]
        exact more

theorem Reaches.discards {size deadline : Nat}
    (regular : course.line.Regular holds ahead) (driven : course.Driven)
    (begun : (course.before first).worker.stage =
      .busy command Exchange.start)
    (sound : course.DrainsSoundly command first)
    (reaches : course.Reaches command first index
      (.discarding size deadline)) :
    course.Reaches command first (index + 1) .draining ∧
      (holds (course.beats first).instant
        (course.before (index + 1)).wire.line).length <
      (holds (course.beats first).instant
        (course.before index).wire.line).length := by
  obtain ⟨instant, _, _, unread⟩ :=
    reaches.drains regular driven begun rfl
  obtain ⟨positive, some_⟩ := unread size deadline rfl
  have long := List.length_pos_iff.mpr some_
  rw [← instant] at some_
  rcases regular.gives positive some_ with
    ⟨fault, failed⟩ | ⟨octets, more, ready, rest, _⟩
  · have step : course.stepAt command (.discarding size deadline) index =
        .done (.error fault.toFailure) ((course.found index).take
          (course.line.read (course.beats index).instant size
            (course.before index).wire.line)) := by
      simp only [stepAt, Exchange.step, Exchange.discard, found_line, failed]
    exact absurd step (sound index _ _ _ reaches rfl)
  · have step : course.stepAt command (.discarding size deadline) index =
        .next .draining ((course.found index).take
          (course.line.read (course.beats index).instant size
            (course.before index).wire.line)) := by
      simp [stepAt, Exchange.step, Exchange.discard, ready, more]
    have goes := congrArg Exchange.Step.goesOn? step
    have taken := List.length_pos_iff.mpr more
    refine ⟨reaches.goesOn _ _ goes, ?_⟩
    rw [(before_of_goesOn reaches.busy goes).2.1, Wire.take_line, ← instant,
      rest, instant, List.length_drop]
    omega

/-- A drain empties the input of its line. -/
theorem Reaches.runs_dry (regular : course.line.Regular holds ahead)
    (driven : course.Driven)
    (begun : (course.before first).worker.stage =
      .busy command Exchange.start)
    (sound : course.DrainsSoundly command first) (length : Nat) :
    ∀ {index : Nat}, course.Reaches command first index .draining →
      (holds (course.beats first).instant
        (course.before index).wire.line).length = length →
      ∃ drained, course.RunsDry command first (index + drained) := by
  -- A round of the drain is a look and a read, which makes the input shorter.
  induction length using Nat.strongRecOn with
  | ind length lower =>
      intro index reaches held
      have instant := (reaches.drains regular driven begun rfl).instant
      generalize step : course.stepAt command .draining index = result
      cases moves_of_step step with
      | drainFails failure value =>
          exact absurd step (sound index _ _ _ reaches rfl)
      | drainEnds value =>
          exact ⟨0, reaches, found_line course index ▸ value⟩
      | drainFinds count value =>
          have goes := congrArg Exchange.Step.goesOn? step
          have next := reaches.goesOn _ _ goes
          obtain ⟨again, less⟩ := next.discards regular driven begun sound
          have same : holds (course.beats first).instant
              (course.before (index + 1)).wire.line =
                holds (course.beats first).instant
                  (course.before index).wire.line := by
            rw [(before_of_goesOn reaches.busy goes).2.1, Wire.take_line,
              found_line, instant]
            exact (regular.looks _ _).input
          rw [same, held] at less
          obtain ⟨drained, dry⟩ := lower _ less again rfl
          exact ⟨drained + 2, by
            rwa [show index + (drained + 2) = index + 1 + 1 + drained by
              omega]⟩

theorem RunsDry.accepts {last : Nat}
    (dry : course.RunsDry command first last) (behind : first ≤ index)
    (within : index ≤ last) : course.accepts index = [] := by
  obtain ⟨phase, reaches, drain⟩ := dry.reaches.drained rfl behind within
  simp only [Course.accepts, reaches.busy]
  cases phase with
  | writing rest deadline => cases drain
  | _ => rfl

theorem output_of_idle (count : Nat) :
    ∀ {first : Nat}, (∀ index, first ≤ index → index < first + count →
      course.accepts index = []) → course.output first count = [] := by
  induction count with
  | zero => exact fun _ => rfl
  | succ count induction =>
      intro first idle
      rw [output, idle first (Nat.le_refl first) (by omega),
        induction fun index behind within =>
          idle index (Nat.le_of_succ_le behind) (by omega)]
      rfl

theorem output_add (count more : Nat) :
    ∀ first, course.output first (count + more) =
      course.output first count ++ course.output (first + count) more := by
  induction count with
  | zero =>
      intro first
      rw [Nat.zero_add]
      rfl
  | succ count induction =>
      intro first
      rw [Nat.succ_add, output, output, induction, List.append_assoc,
        Nat.succ_add_eq_add_succ]

/-- What is written in all is written behind the drain. -/
theorem RunsDry.output {drained : Nat}
    (dry : course.RunsDry command first (first + drained)) (count : Nat) :
    course.output first (drained + count + 1) =
      course.output (first + drained + 1) count := by
  have idle : course.output first (drained + 1) = [] :=
    output_of_idle _ fun index behind within =>
      dry.accepts behind (Nat.le_of_lt_succ within)
  rw [Nat.add_right_comm, output_add, idle]
  rfl

/-- Another course takes up the same command at the same instant, on a line
before which the same lies, and whose input is empty.  The flags may stand as
they like. -/
structure Tidied (holds : Nat → σ → Bytes) (ahead : Nat → σ → ρ)
    (course other : Course σ) (command : Command) (first place : Nat) :
    Prop where
  settings : course.settings = other.settings
  line : course.line = other.line
  driven : course.Driven
  drives : other.Driven
  begun : (course.before first).worker.stage =
    .busy command Exchange.start
  begins : (other.before place).worker.stage = .busy command Exchange.start
  instant : (course.beats first).instant = (other.beats place).instant
  listening : (course.before first).wire.listening =
    (other.before place).wire.listening
  future : ahead (course.beats first).instant (course.before first).wire.line =
    ahead (course.beats first).instant (other.before place).wire.line
  empty : holds (course.beats first).instant
    (other.before place).wire.line = []

theorem stepAt_of_empty
    (empty : (course.line.available (course.beats index).instant
      (course.before index).wire.line).value = .ok 0) :
    course.stepAt command .draining index =
      .next (.writing command.request
          ((course.beats index).instant + course.settings.wait))
        ((course.found index).take
          (course.line.available (course.beats index).instant
            (course.before index).wire.line)).clear := by
  simp only [stepAt, Exchange.step, Exchange.drain, Exchange.drained,
    found_line, empty]

theorem RunsDry.next (dry : course.RunsDry command first index) :
    course.Reaches command first (index + 1)
      (.writing command.request
        ((course.beats index).instant + course.settings.wait)) :=
  dry.reaches.goesOn _ _
    (congrArg Exchange.Step.goesOn? (stepAt_of_empty dry.empty))

theorem RunsDry.not_completes {outcome : Except Failure Bytes}
    (dry : course.RunsDry command first index) :
    ¬course.Completes command first index outcome := by
  rintro ⟨phase, wire, reaches, done⟩
  obtain rfl := reaches.unique dry.reaches
  cases (stepAt_of_empty dry.empty).symm.trans done

/-- The outcome of an exchange does not depend on the beat from which one looks
at it. -/
theorem Reaches.completes_iff {last : Nat} {outcome : Except Failure Bytes}
    (reaches : course.Reaches command first index phase) :
    course.Completes command first last outcome ↔
      course.Completes command index last outcome := by
  constructor
  · intro completes
    have within := completes.le_last reaches
    obtain ⟨final, wire, arrives, done⟩ := completes
    exact .intro final wire (arrives.since reaches.le within).2 done
  · rintro ⟨final, wire, arrives, done⟩
    exact .intro final wire (reaches.trans arrives) done

theorem Tidied.alike (regular : course.line.Regular holds ahead)
    (tidied : Tidied holds ahead course other command first place)
    (dry : course.RunsDry command first index) :
    Line.Alike holds ahead (course.beats index).instant
      (course.before index).wire.line (other.before place).wire.line := by
  obtain ⟨instant, _, future, _⟩ :=
    dry.reaches.drains regular tidied.driven tidied.begun rfl
  constructor
  · rw [(regular.counts dry.empty).mp rfl, instant, tidied.empty]
  · rw [instant, future, tidied.future]

/-- Behind the drain the two courses stand side by side. -/
theorem Tidied.beside (regular : course.line.Regular holds ahead)
    (tidied : Tidied holds ahead course other command first place)
    (dry : course.RunsDry command first index)
    (clock : SameClock course other index place) :
    other.RunsDry command place place ∧
      Beside holds ahead course other command (index + 1) (place + 1)
        (.writing command.request
          ((course.beats index).instant + course.settings.wait)) := by
  obtain ⟨instant, listening, _, _⟩ :=
    dry.reaches.drains regular tidied.driven tidied.begun rfl
  have answers := regular.available (tidied.alike regular dry)
  have now : (other.beats place).instant = (course.beats index).instant :=
    tidied.instant.symm.trans instant.symm
  have empty : (other.line.available (other.beats place).instant
      (other.before place).wire.line).value = .ok 0 := by
    rw [← tidied.line, now, ← answers.value, dry.empty]
  have step : course.stepAt command .draining index = _ :=
    stepAt_of_empty dry.empty
  have also : other.stepAt command .draining place = _ :=
    stepAt_of_empty empty
  have asked : course.asks index = other.asks place := by
    rw [asks_of_busy dry.reaches.busy, asks_of_busy tidied.begins, step]
    exact (congrArg Exchange.Step.asks also).symm
  rw [now, ← tidied.settings, ← tidied.line] at also
  obtain ⟨here, after, _⟩ := before_of_goesOn dry.reaches.busy
    (congrArg Exchange.Step.goesOn? step)
  obtain ⟨there, following, _⟩ := before_of_goesOn tidied.begins
    (congrArg Exchange.Step.goesOn? also)
  obtain ⟨beat, clock⟩ := clock.next asked
  refine ⟨⟨.begins _ tidied.begins, empty⟩, ?_⟩
  constructor
  · exact tidied.settings
  · exact tidied.line
  · exact tidied.driven
  · exact tidied.drives
  · exact here
  · exact there
  · rw [after, following]
    constructor
    · rfl
    · simp only [Wire.clear, Wire.listening_take, listening_found]
      rw [listening, tidied.listening]
    · simp only [Wire.clear, Wire.take_line]
      exact regular.passes (tidied.driven.ordered index) answers.line
  · exact beat
  · exact clock

/-- Both courses come to the same outcome, at the same instant and with the same
octets written. -/
theorem Tidied.completes_alike {drained count : Nat}
    {outcome : Except Failure Bytes}
    (regular : course.line.Regular holds ahead)
    (tidied : Tidied holds ahead course other command first place)
    (dry : course.RunsDry command first (first + drained))
    (clock : SameClock course other (first + drained) place) :
    (course.Completes command first (first + drained + count) outcome ↔
      other.Completes command place (place + count) outcome) ∧
    (other.Completes command place (place + count) outcome →
      (course.beats (first + drained + count)).instant =
        (other.beats (place + count)).instant ∧
      course.output first (drained + count + 1) =
        other.output place (count + 1)) := by
  obtain ⟨empty, beside⟩ := tidied.beside regular dry clock
  cases count with
  | zero =>
      refine ⟨iff_of_false dry.not_completes empty.not_completes, ?_⟩
      exact fun ends => absurd ends empty.not_completes
  | succ count =>
      have behind : first + drained + (count + 1) =
          first + drained + 1 + count := by omega
      have also : place + (count + 1) = place + 1 + count := by omega
      have same : other.line.Regular holds ahead := tidied.line ▸ regular
      rw [behind, also, dry.next.completes_iff, empty.next.completes_iff]
      refine ⟨⟨fun ends => (beside.completes regular count ends).1,
        fun ends => (beside.symm.completes same count ends).1⟩, ?_⟩
      intro ends
      obtain ⟨_, beat, output⟩ := beside.symm.completes same count ends
      have empty : other.RunsDry command place (place + 0) := empty
      refine ⟨congrArg Beat.instant beat.symm, ?_⟩
      calc
        course.output first (drained + (count + 1) + 1) =
            course.output (first + drained + 1) (count + 1) := dry.output _
        _ = other.output (place + 1) (count + 1) := output.symm
        _ = other.output place (0 + (count + 1) + 1) := (empty.output _).symm
        _ = other.output place (count + 1 + 1) := by rw [Nat.zero_add]

theorem Completes.unready {last : Nat} {outcome : Except Failure Bytes}
    (completes : course.Completes command first last outcome) :
    (course.before (last + 1)).wire.ready = false := by
  obtain ⟨phase, wire, reaches, done⟩ := completes
  simp only [stepAt, Course.found] at done
  cases outcome <;>
    simp [before, Worker.step, reaches.busy, done, answer, Except.isOk,
      Except.toBool, Wire.clear, Wire.failed]

/-- Octets that are left over in the input change nothing, wherever the flag
stands: an exchange drains them in no time, and if the clock goes on from there
as it does for an exchange that finds no octets, both come to the same outcome
at the same instant, having written the same.  The flag is down once a command
is answered. -/
theorem left_over_octets_forgotten
    (regular : course.line.Regular holds ahead)
    (tidied : Tidied holds ahead course other command first place)
    (sound : course.DrainsSoundly command first) :
    (∃ drained, course.RunsDry command first (first + drained)) ∧
    (∀ drained, course.RunsDry command first (first + drained) →
      (course.beats (first + drained)).instant =
        (course.beats first).instant ∧
      (∀ last outcome, course.Completes command first last outcome →
        first + drained ≤ last) ∧
      (SameClock course other (first + drained) place →
        ∀ count outcome,
          (course.Completes command first (first + drained + count) outcome ↔
            other.Completes command place (place + count) outcome) ∧
          (other.Completes command place (place + count) outcome →
            (course.beats (first + drained + count)).instant =
              (other.beats (place + count)).instant ∧
            course.output first (drained + count + 1) =
              other.output place (count + 1)))) ∧
    ∀ (any : Course σ) (served : Command) (start last : Nat)
      (outcome : Except Failure Bytes),
      any.Completes served start last outcome →
        (any.before (last + 1)).wire.ready = false := by
  refine ⟨?_, ?_, fun any served start last outcome => Completes.unready⟩
  · exact Reaches.runs_dry regular tidied.driven tidied.begun sound _
      (.begins _ tidied.begun) rfl
  · intro drained dry
    have instant := (dry.reaches.drains regular tidied.driven tidied.begun
      rfl).instant
    refine ⟨instant, fun last outcome ends => ends.le_last dry.reaches, ?_⟩
    exact fun clock count outcome => tidied.completes_alike regular dry clock

end Course

end Worker

namespace TimedLine

def ahead (now : Nat) (line : TimedLine) : List (Nat × UInt8) :=
  line.octets.dropWhile fun entry => entry.1 ≤ now

/-- Octets that have arrived have still arrived at a later instant. -/
theorem due_split {now later : Nat} (passes : now ≤ later)
    (octets : List (Nat × UInt8)) :
    due later octets = due now octets ++
        due later (octets.dropWhile fun entry => entry.1 ≤ now) ∧
      (octets.dropWhile fun entry => entry.1 ≤ later) =
        (octets.dropWhile fun entry => entry.1 ≤ now).dropWhile
          fun entry => entry.1 ≤ later := by
  unfold due
  induction octets with
  | nil => exact ⟨rfl, rfl⟩
  | cons entry others induction =>
      by_cases arrived : entry.1 ≤ now
      · have still := Nat.le_trans arrived passes
        simpa [arrived, still] using induction
      · simp [arrived]

theorem due_drop {now count : Nat} {octets : List (Nat × UInt8)}
    (within : count ≤ (due now octets).length) :
    due now (octets.drop count) = (due now octets).drop count ∧
      ((octets.drop count).dropWhile fun entry => entry.1 ≤ now) =
        octets.dropWhile fun entry => entry.1 ≤ now := by
  unfold due at within ⊢
  induction octets generalizing count with
  | nil => simp
  | cons entry others induction =>
      cases count with
      | zero => exact ⟨rfl, rfl⟩
      | succ count =>
          by_cases arrived : entry.1 ≤ now
          · simp only [arrived, decide_true, List.takeWhile_cons_of_pos,
              List.length_cons, Nat.add_le_add_iff_right] at within
            simpa [arrived] using induction within
          · simp [arrived] at within

theorem read_takes (now size : Nat) (line : TimedLine) :
    holds now (interface.read now size line).line =
        (holds now line).drop (min size (holds now line).length) ∧
      ahead now (interface.read now size line).line = ahead now line := by
  have within : min size (holds now line).length ≤
      (due now line.octets).length := by
    rw [holds, List.length_map]
    exact Nat.min_le_right _ _
  obtain ⟨input, future⟩ := due_drop within
  constructor
  · simp only [interface, holds] at input ⊢
    rw [input, List.map_drop]
  · exact future

theorem regular : interface.Regular holds ahead := by
  constructor
  · intro now next line other passes same
    obtain ⟨input, future⟩ := due_split passes line.octets
    obtain ⟨otherInput, otherFuture⟩ := due_split passes other.octets
    have coming : (line.octets.dropWhile fun entry => entry.1 ≤ now) =
        other.octets.dropWhile fun entry => entry.1 ≤ now := same.future
    constructor
    · rw [holds, holds, input, otherInput, List.map_append, List.map_append,
        coming]
      exact congrArg (· ++ _) same.input
    · rw [ahead, ahead, future, otherFuture, coming]
  · intro now line other same
    refine ⟨?_, rfl, same⟩
    simp only [interface, same.input]
  · intro now size line other same
    obtain ⟨input, future⟩ := read_takes now size line
    obtain ⟨otherInput, otherFuture⟩ := read_takes now size other
    refine ⟨?_, rfl, ?_, ?_⟩
    · simp only [interface, same.input]
    · rw [input, otherInput, same.input]
    · rw [future, otherFuture, same.future]
  · exact fun octets line other same => ⟨rfl, rfl, same⟩
  · exact fun same => ⟨rfl, rfl, same⟩
  · rintro now count line ⟨⟩
    exact List.length_eq_zero_iff
  · exact fun now line => ⟨rfl, rfl⟩
  · intro now size line positive unread
    obtain ⟨input, future⟩ := read_takes now size line
    refine Or.inr ⟨(holds now line).take size, ?_, rfl, ?_, future⟩
    · intro nothing
      rcases List.take_eq_nil_iff.mp nothing with zero | empty
      · exact Nat.ne_of_gt positive zero
      · exact unread empty
    · rw [input, List.length_take]

theorem asksAhead : interface.AsksAhead :=
  ⟨nofun, nofun, nofun⟩

def reply : List (Nat × UInt8) := [(4, 1), (4, 3)]

def untidy : Worker.Course TimedLine :=
  Worker.Course.alone (settings 40) interface
    { Worker.fresh with stage := .busy command Exchange.start }
    { Wire.fresh { octets := List.replicate 130 (0, 85) ++ reply } with
      ready := true
      listening := true }

def tidy : Worker.Course TimedLine :=
  Worker.Course.alone (settings 40) interface
    { Worker.fresh with stage := .busy command Exchange.start }
    { Wire.fresh { octets := reply } with listening := true }

theorem untidy_reaches {index : Nat} {phase : Exchange.Phase}
    (unanswered : (untidy.before index).answers.length = 0)
    (busy : (untidy.before index).worker.stage = .busy command phase) :
    untidy.Reaches command 0 index phase := by
  obtain ⟨other, reaches⟩ := Worker.Course.Reaches.of_unanswered
    (show (untidy.before 0).worker.stage = _ from rfl) (Nat.zero_le index)
    (List.length_eq_zero_iff.mp unanswered)
  cases reaches.busy.symm.trans busy
  exact reaches

theorem untidy_runs_dry : untidy.RunsDry command 0 (0 + 4) := by
  have empty : (holds (untidy.beats (0 + 4)).instant
      (untidy.before (0 + 4)).wire.line).length = 0 := by decide +kernel
  constructor
  · exact untidy_reaches (by decide +kernel) (by decide +kernel)
  · exact congrArg Except.ok empty

theorem drains_soundly : untidy.DrainsSoundly command 0 := by
  intro index phase failure wire reaches drain step
  cases Worker.Course.moves_of_step step with
  | drainFails _ value => cases value
  | discardFails size deadline fault value => cases value
  | _ => cases drain

theorem tidied : Worker.Course.Tidied holds ahead untidy tidy command 0 0 := by
  constructor
  · rfl
  · rfl
  · exact Worker.Course.driven_alone _ _ _ _ asksAhead
  · exact Worker.Course.driven_alone _ _ _ _ asksAhead
  · rfl
  · rfl
  · rfl
  · rfl
  · decide +kernel
  · decide +kernel

theorem clock : Worker.Course.SameClock untidy tidy (0 + 4) 0 := by
  apply Worker.Course.SameClock.of_alone
  decide +kernel

end TimedLine

open TimedLine in
/-- More than a hundred octets are dropped, and the reply is found as if they
had not been there. -/
theorem Worker.Course.reply_found_behind_left_over_octets :
    untidy.Completes command 0 49 (.ok [1, 3]) ∧
      tidy.Completes command 0 45 (.ok [1, 3]) ∧
      (untidy.beats 49).instant = (tidy.beats 45).instant ∧
      untidy.output 0 50 = tidy.output 0 46 ∧
      (untidy.before 50).wire.ready = false := by
  have completes : untidy.Completes command 0 49 (.ok [1, 3]) :=
    .intro (.polling [1, 3] 0) _
      (untidy_reaches (by decide +kernel) (by decide +kernel)) rfl
  have steady : untidy.line.Regular holds ahead := regular
  obtain ⟨_, alike, unready⟩ :=
    left_over_octets_forgotten steady tidied drains_soundly
  obtain ⟨_, _, same⟩ := alike 4 untidy_runs_dry
  obtain ⟨both, further⟩ := same clock 45 (.ok [1, 3])
  have also := both.mp completes
  obtain ⟨instant, output⟩ := further also
  exact ⟨completes, also, instant, output,
    unready untidy command 0 49 _ completes⟩

end MeterLine
