import MeterLine.Proofs.Port.LeftOver
import MeterLine.Proofs.Port.Silence

/-!
# Events and looks

A line may announce its octets by events, or leave it to the worker to look for
them.  The flag that an event raises ends the watch at the next look, and a
look that finds octets ends it too.  So a line whose flag is never found raised
without octets behind it is served like the same line without its events: both
workers take the same steps up to the answer, as long as the reply begins
before the last look.
-/

namespace MeterLine

/-- The same answer without its events. -/
def LineAnswer.hushed (answer : LineAnswer σ α) : LineAnswer σ α :=
  { answer with events := [] }

def Line.hushed (line : Line σ) : Line σ :=
  { available := fun now state => (line.available now state).hushed
    read := fun now size state => (line.read now size state).hushed
    write := fun now octets state => (line.write now octets state).hushed
    flush := fun now state => (line.flush now state).hushed }

@[simp] theorem LineAnswer.value_hushed (answer : LineAnswer σ α) :
    answer.hushed.value = answer.value := rfl

@[simp] theorem Wire.take_hushed (wire : Wire σ) (answer : LineAnswer σ α) :
    wire.take answer.hushed = { wire with line := answer.line } := rfl

namespace Exchange

/-- Two steps that come to the same on lines that are alike.  The second wire
knows of no data as long as its exchange watches for them. -/
inductive Step.Matches (alike : σ → σ → Prop) : Step σ → Step σ → Prop where
  | next (phase : Phase) (wire other : Wire σ) :
      alike wire.line other.line →
      (phase.part = .watch → other.ready = false) →
      Matches alike (.next phase wire) (.next phase other)
  | wait (phase : Phase) (wire other : Wire σ) (wake : Nat) :
      alike wire.line other.line →
      (phase.part = .watch → other.ready = false) →
      Matches alike (.wait phase wire wake) (.wait phase other wake)
  | done (outcome : Except Failure Bytes) (wire other : Wire σ) :
      Matches alike (.done outcome wire) (.done outcome other)

section

variable {settings : PortSettings} {line : Line σ} {now : Nat}
  {wire other : Wire σ} {holds : Nat → σ → Bytes} {ahead : Nat → σ → ρ}
  (regular : line.Regular holds ahead)
  (same : Line.Alike holds ahead now wire.line other.line)

include regular same

private theorem watch_matches (inflow : line.Inflow holds) {remaining : Int}
    (inTime : 0 ≤ remaining) (unready : other.ready = false)
    (honest : wire.ready = true → holds now wire.line ≠ []) :
    (watch settings line now remaining wire).Matches
      (Line.Alike holds ahead now)
      (watch settings line.hushed now remaining other) := by
  have still : ¬remaining < 0 := by omega
  have answers := regular.available same
  obtain ⟨count, found, zero⟩ := inflow.looks now other.line
  simp only [watch, Line.hushed, LineAnswer.value_hushed, Wire.take_hushed,
    unready, Bool.false_eq_true, if_false, still, answers.value, found]
  cases ready : wire.ready with
  | true =>
      have unread := honest ready
      rw [same.input] at unread
      have looked := regular.looks now other.line
      cases count with
      | zero => exact (unread (zero.mp rfl)).elim
      | succ count =>
          exact .next _ _ _ ⟨same.input.trans looked.input.symm,
            same.future.trans looked.future.symm⟩ (by simp [Phase.part])
  | false =>
      simp only [Bool.false_eq_true, if_false]
      cases count with
      | zero =>
          refine .next _ _ _ ?_ fun _ => rfl
          rw [Wire.take_line]
          exact answers.line
      | succ count =>
          refine .next _ _ _ ?_ (by simp [Phase.part])
          rw [Wire.take_line]
          exact answers.line

private theorem poll_matches (reply : Bytes) (idle : Nat) :
    (poll settings line now reply idle wire).Matches
      (Line.Alike holds ahead now)
      (poll settings line.hushed now reply idle other) := by
  have answers := regular.available same
  have alike : Line.Alike holds ahead now
      (wire.take (line.available now wire.line)).line
      (line.available now other.line).line := by
    rw [Wire.take_line]
    exact answers.line
  cases idle with
  | zero => exact .done _ _ _
  | succ idle =>
      simp only [poll, Line.hushed, LineAnswer.value_hushed,
        Wire.take_hushed, answers.value]
      split
      · exact .done _ _ _
      · split
        · exact .done _ _ _
        · exact .next _ _ _ alike (by simp [Phase.part])
        · exact .next _ _ _ alike (by simp [Phase.part])

private theorem read_matches (reply : Bytes) (idle size deadline : Nat) :
    (read settings line now reply idle size deadline wire).Matches
      (Line.Alike holds ahead now)
      (read settings line.hushed now reply idle size deadline other) := by
  have answers := regular.read size same
  have alike : Line.Alike holds ahead now
      (wire.take (line.read now size wire.line)).line
      (line.read now size other.line).line := by
    rw [Wire.take_line]
    exact answers.line
  simp only [read, Line.hushed, LineAnswer.value_hushed, Wire.take_hushed,
    answers.value]
  split
  · exact .done _ _ _
  · split
    · exact .next _ _ _ alike (by simp [Phase.part])
    · exact .next _ _ _ alike (by simp [Phase.part])
  · split
    · exact .next _ _ _ alike (by simp [Phase.part])
    · exact .wait _ _ _ _ alike (by simp [Phase.part])

/-- From the watch on, exchanges on lines that are alike take the same steps,
whether one of the lines raises events or not. -/
theorem step_matches (settings : PortSettings) (inflow : line.Inflow holds)
    (request : Bytes) {phase : Phase}
    (waits : phase.part = .watch ∨ phase.part = .read)
    (inTime : ∀ remaining, phase = .watching remaining → 0 ≤ remaining)
    (unready : phase.part = .watch → other.ready = false)
    (honest : ∀ remaining, phase = .watching remaining →
      wire.ready = true → holds now wire.line ≠ []) :
    (step settings line now request phase wire).Matches
      (Line.Alike holds ahead now)
      (step settings line.hushed now request phase other) := by
  cases phase with
  | watching remaining =>
      exact watch_matches regular same inflow (inTime _ rfl) (unready rfl)
        (honest _ rfl)
  | dozing remaining wake =>
      simp only [step]
      split
      · exact .next _ _ _ same fun _ => unready rfl
      · exact .wait _ _ _ _ same fun _ => unready rfl
  | polling reply idle => exact poll_matches regular same reply idle
  | reading reply idle size deadline =>
      exact read_matches regular same reply idle size deadline
  | resting reply idle wake =>
      simp only [step]
      split
      · exact .next _ _ _ same (by simp [Phase.part])
      · exact .wait _ _ _ _ same (by simp [Phase.part])
  | _ => rcases waits with watch | read <;> contradiction

end

theorem Moves.untold {settings : PortSettings} {line : Line σ} {now : Nat}
    {request : Bytes} {wire after : Wire σ} {phase later : Phase}
    {result : Step σ} {holds : Nat → σ → Bytes} (inflow : line.Inflow holds)
    (told : ∀ event ∈ (line.available now wire.line).events,
      event.announces = true → holds now wire.line ≠ [])
    (moves : Moves settings line now request wire phase result)
    (goes : result.goesOn? = some (later, after))
    (behind : Part.watch.order ≤ phase.part.order)
    (watches : later.part = .watch) (ready : after.ready = true) :
    phase.part = .watch ∧ after = wire := by
  cases moves with
  | watches remaining down _ value =>
      cases goes
      have empty := empty_of_look inflow value
      have still := Wire.ready_take (fun event member => by
        by_contra announced
        exact told event member (by simpa using announced) empty) down
      rw [still] at ready
      cases ready
  | wakes remaining wake => cases goes; exact ⟨rfl, rfl⟩
  | dozes remaining wake => cases goes; exact ⟨rfl, rfl⟩
  | flushes deadline => simp [Phase.part, Part.order] at behind
  | flushWaits deadline wake => simp [Phase.part, Part.order] at behind
  | _ =>
      cases goes
      all_goals cases watches

end Exchange

namespace Worker.Course

/-- A course that watches for the same reply at the same beats, on a line that
is alike and raises no event. -/
structure Silences (other course : Course σ) (holds : Nat → σ → Bytes)
    (ahead : Nat → σ → ρ) (sent : Nat) : Prop where
  settings : other.settings = course.settings
  line : other.line = course.line.hushed
  beats : ∀ index, other.beats index =
    { instant := (course.beats index).instant
      events := [] }
  stage : (other.before (sent + 1)).worker.stage =
    (course.before (sent + 1)).worker.stage
  unready : (other.before (sent + 1)).wire.ready = false
  alike : Line.Alike holds ahead (course.beats (sent + 1)).instant
    (course.before (sent + 1)).wire.line (other.before (sent + 1)).wire.line

/-- From a watch on, events tell of data only when there are some, and so does
the flag at its beginning. -/
structure Announces (course : Course σ) (holds : Nat → σ → Bytes)
    (sent : Nat) : Prop where
  begun : (course.before (sent + 1)).wire.ready = true →
    holds (course.beats (sent + 1)).instant
      (course.before (sent + 1)).wire.line ≠ []
  beats : ∀ index, sent < index → ∀ event ∈ (course.beats index).events,
    event.announces = true →
      holds (course.beats index).instant (course.before index).wire.line ≠ []
  looks : ∀ now state, ∀ event ∈ (course.line.available now state).events,
    event.announces = true → holds now state ≠ []

/-- Two courses have got to the same phase of an exchange that awaits an
octet. -/
structure Paired (course other : Course σ) (holds : Nat → σ → Bytes)
    (ahead : Nat → σ → ρ) (command : Command) (octet : UInt8)
    (sent due index : Nat) (phase : Exchange.Phase) : Prop where
  stands : course.Stands holds command octet sent due index phase
  reaches : course.Reaches command (sent + 1) index phase
  also : other.Reaches command (sent + 1) index phase
  alike : Line.Alike holds ahead (course.beats index).instant
    (course.before index).wire.line (other.before index).wire.line
  unready : phase.part = .watch → (other.before index).wire.ready = false

section

variable {course other : Course σ} {holds : Nat → σ → Bytes}
  {ahead : Nat → σ → ρ} {command : Command} {octet : UInt8}
  {sent due index : Nat} {phase later : Exchange.Phase}

theorem Silences.found (silences : other.Silences course holds ahead sent)
    (index : Nat) : other.found index = (other.before index).wire := by
  rw [Course.found, silences.beats]
  rfl

theorem Announces.found (announces : course.Announces holds sent)
    (behind : sent < index)
    (before : (course.before index).wire.ready = true →
      holds (course.beats index).instant (course.before index).wire.line ≠ [])
    (ready : (course.found index).ready = true) :
    holds (course.beats index).instant (course.found index).line ≠ [] := by
  rw [found_line]
  cases up : (course.before index).wire.ready with
  | true => exact before up
  | false =>
      intro empty
      have down : (course.found index).ready = false := by
        refine Wire.ready_foldl_hear (fun event member => ?_) up
        by_contra told
        exact announces.beats index behind event member
          (by simpa using told) empty
      rw [down] at ready
      cases ready

theorem Announces.unread (passes : course.Passes)
    (inflow : course.line.Inflow holds)
    (announces : course.Announces holds sent) {remaining : Int}
    (watching : (course.before (sent + 1)).worker.stage =
      .busy command (.watching remaining))
    (reaches : course.Reaches command (sent + 1) index phase)
    (watches : phase.part = .watch)
    (ready : (course.before index).wire.ready = true) :
    holds (course.beats index).instant (course.before index).wire.line ≠
      [] := by
  induction reaches with
  | begins => exact announces.begun ready
  | @goesOn index phase later wire reaches goes induction =>
      obtain ⟨_, rfl, _⟩ := before_of_goesOn reaches.busy goes
      obtain ⟨before, same⟩ := (moves_of_step rfl).untold inflow
        (announces.looks _ _) goes (reaches.order_le watching) watches ready
      rw [same] at ready ⊢
      have unread := announces.found reaches.le (induction before) ready
      exact (inflow.grows _ (passes.ordered index)).ne_nil unread

theorem Announces.honest (passes : course.Passes)
    (inflow : course.line.Inflow holds)
    (announces : course.Announces holds sent) {remaining : Int}
    (watching : (course.before (sent + 1)).worker.stage =
      .busy command (.watching remaining)) (look : Nat) (left : Int)
    (looks : course.Looks command sent look left)
    (ready : (course.found look).ready = true) :
    holds (course.beats look).instant (course.found look).line ≠ [] := by
  obtain ⟨phase, reaches⟩ := Reaches.of_unanswered watching
    (Nat.succ_le_of_lt looks.behind) looks.unanswered
  cases looks.watching.symm.trans reaches.busy
  exact announces.found looks.behind
    (announces.unread passes inflow watching reaches rfl) ready

theorem Paired.goesOn (passes : course.Passes)
    (inflow : course.line.Inflow holds)
    (regular : course.line.Regular holds ahead)
    (paired : course.Paired other holds ahead command octet sent due index
      phase)
    {wire another : Wire σ}
    (goes : (course.stepAt command phase index).goesOn? = some (later, wire))
    (alsoGoes : (other.stepAt command phase index).goesOn? =
      some (later, another))
    (awaits : Exchange.Awaits course.settings holds octet
      (course.beats sent).instant due (course.Misled holds command sent due)
      (course.beats index).instant later wire.line)
    (alike : Line.Alike holds ahead (course.beats index).instant wire.line
      another.line)
    (unready : later.part = .watch → another.ready = false) :
    course.Paired other holds ahead command octet sent due (index + 1)
      later := by
  have stands := paired.stands.goesOn passes inflow goes awaits
  have reaches := paired.reaches.goesOn later wire goes
  have also := paired.also.goesOn later another alsoGoes
  obtain ⟨_, rfl, _⟩ := before_of_goesOn paired.reaches.busy goes
  obtain ⟨_, rfl, _⟩ := before_of_goesOn paired.also.busy alsoGoes
  constructor
  · exact stands
  · exact reaches
  · exact also
  · exact regular.passes (passes.ordered index) alike
  · exact unready

/-- A beat leaves both courses at the same phase, or answers both commands with
the same data. -/
theorem Paired.beat (passes : course.Passes)
    (inflow : course.line.Inflow holds)
    (regular : course.line.Regular holds ahead)
    (silences : other.Silences course holds ahead sent)
    (inTime : due ≤ (course.beats sent).instant + course.settings.lastLook)
    (honest : ∀ look remaining, course.Looks command sent look remaining →
      (course.found look).ready = true →
        holds (course.beats look).instant (course.found look).line ≠ [])
    (paired : course.Paired other holds ahead command octet sent due index
      phase) :
    (∃ later, course.Paired other holds ahead command octet sent due
        (index + 1) later) ∨
      ∃ data, data.head? = some octet ∧
        course.Completes command (sent + 1) index (.ok data) ∧
        other.Completes command (sent + 1) index (.ok data) := by
  have stands := paired.stands
  have awaits := stands.awaits
  have looks : ∀ remaining, phase = .watching remaining →
      course.Looks command sent index remaining := by
    rintro remaining rfl
    exact ⟨stands.behind, stands.unanswered, stands.busy⟩
  have waits : phase.part = .watch ∨ phase.part = .read := by
    cases awaits <;> simp [Exchange.Phase.part]
  -- Time runs out only when the octet is later than the last look.
  have remains : ∀ remaining, phase = .watching remaining →
      0 ≤ remaining := by
    rintro remaining rfl
    cases awaits with
    | watching _ _ _ late =>
        by_contra elapsed
        have missed := late (by omega)
        omega
  have same : Line.Alike holds ahead (course.beats index).instant
      (course.found index).line (other.found index).line := by
    rw [found_line, found_line]
    exact paired.alike
  have unready : phase.part = .watch →
      (other.found index).ready = false := by
    rw [silences.found]
    exact paired.unready
  have steps := Exchange.step_matches regular same course.settings inflow
    command.request waits remains unready
    fun remaining watching => honest index remaining (looks remaining watching)
  rw [← found_line] at awaits
  have advances := awaits.advances inflow command.request
    (fun remaining watching ready empty =>
      absurd empty (honest index remaining (looks remaining watching) ready))
    (fun missed => by omega)
  have also : other.stepAt command phase index =
      Exchange.step course.settings course.line.hushed
        (course.beats index).instant command.request phase
        (other.found index) := by
    rw [stepAt, silences.settings, silences.line, silences.beats]
  generalize step : Exchange.step course.settings course.line
    (course.beats index).instant command.request phase (course.found index) =
      result at steps advances
  generalize Exchange.step course.settings course.line.hushed
    (course.beats index).instant command.request phase (other.found index) =
      companion at steps also
  cases steps with
  | next later wire another alike quiet =>
      left
      refine ⟨later, paired.goesOn passes inflow regular ?_ ?_ ?_ alike quiet⟩
      · rw [stepAt, step]
        rfl
      · rw [also]
        rfl
      · cases advances
        assumption
  | wait later wire another wake alike quiet =>
      left
      refine ⟨later, paired.goesOn passes inflow regular ?_ ?_ ?_ alike quiet⟩
      · rw [stepAt, step]
        rfl
      · rw [also]
        rfl
      · cases advances
        assumption
  | done outcome wire another =>
      cases advances with
      | done data wire begins =>
          right
          refine ⟨data, ?_, ?_, ?_⟩
          · rcases begins with first | ⟨_, look, remaining, found, ready,
              empty, _⟩
            · exact first
            · exact absurd empty (honest look remaining found ready)
          · exact .intro phase wire paired.reaches step
          · exact .intro phase another paired.also also

theorem Paired.completes (passes : course.Passes)
    (inflow : course.line.Inflow holds)
    (regular : course.line.Regular holds ahead)
    (silences : other.Silences course holds ahead sent)
    (inTime : due ≤ (course.beats sent).instant + course.settings.lastLook)
    (honest : ∀ look remaining, course.Looks command sent look remaining →
      (course.found look).ready = true →
        holds (course.beats look).instant (course.found look).line ≠ [])
    (paired : course.Paired other holds ahead command octet sent due index
      phase) :
    ∃ last data, data.head? = some octet ∧
      course.Completes command (sent + 1) last (.ok data) ∧
      other.Completes command (sent + 1) last (.ok data) := by
  -- The course alone comes to an answer, and up to it both stay paired.
  obtain ⟨final, behind, data, answers, _⟩ :=
    paired.stands.answered passes inflow (fun missed => by omega) _ rfl
  have goesOn : ∀ distance,
      (∃ later, course.Paired other holds ahead command octet sent due
        (index + distance) later) ∨
      ∃ last data, data.head? = some octet ∧
        course.Completes command (sent + 1) last (.ok data) ∧
        other.Completes command (sent + 1) last (.ok data) := by
    intro distance
    induction distance with
    | zero => exact Or.inl ⟨phase, paired⟩
    | succ distance induction =>
        rcases induction with ⟨later, further⟩ | both
        · rcases further.beat passes inflow regular silences inTime honest with
            next | both
          · exact Or.inl next
          · exact Or.inr ⟨_, both⟩
        · exact Or.inr both
  rcases goesOn final with ⟨later, further⟩ | both
  · obtain ⟨⟨_, reaches⟩, _⟩ :=
      further.reaches.since (Nat.succ_le_of_lt behind) (by omega)
    have unanswered := reaches.answers
    rw [answers] at unanswered
    simp at unanswered
  · exact both

/-- A reply whose first octet waits to be read at the last look, or at any time
if the flag is up when the watch ends, is never missed, whatever events the
line raises: the command is answered with data that begin with the octet, or
with none if a look found the flag raised, and no data, too far ahead of it.
If the octet is there by the last look and no look finds the flag raised
without data, then a line that is alike and raises no event is served alike:
the same data are returned at the same beat. -/
theorem first_octet_returned (passes : course.Passes)
    (inflow : course.line.Inflow holds)
    (short : course.settings.wait < 0x8000000000000000) {time : Nat}
    (watching : (course.before (sent + 1)).worker.stage =
      .busy command (.watching (Exchange.watchTime course.settings)))
    (arrives : (holds ((course.beats sent).instant + time)
      (course.before (sent + 1)).wire.line).head? = some octet)
    (inTime : time ≤ course.settings.lastLook ∨
      ∀ look remaining, course.Looks command sent look remaining →
        remaining < 0 → (course.found look).ready = true) :
    (∃ index data, (course.before index).answers =
        (course.before (sent + 1)).answers ++
          [{ number := command.number
             outcome := .ok data }] ∧
      (data.head? = some octet ∨ data = [] ∧
        ∃ look remaining, course.Looks command sent look remaining ∧
          (course.found look).ready = true ∧
          holds (course.beats look).instant (course.found look).line = [] ∧
          (course.beats look).instant +
              (Exchange.idlePolls - 1) * course.settings.tick <
            (course.beats sent).instant + time)) ∧
    ∀ {ρ : Type} (ahead : Nat → σ → ρ) (other : Course σ),
      course.line.Regular holds ahead →
      other.Silences course holds ahead sent →
      time ≤ course.settings.lastLook →
      (∀ look remaining, course.Looks command sent look remaining →
        (course.found look).ready = true →
          holds (course.beats look).instant (course.found look).line ≠ []) →
      ∃ last data, data.head? = some octet ∧
        course.Completes command (sent + 1) last (.ok data) ∧
        other.Completes command (sent + 1) last (.ok data) := by
  have stands := stands_of_arrival passes inflow short watching arrives
  constructor
  · obtain ⟨last, _, data, answers, begins⟩ :=
      stands.answered passes inflow (fun missed => by
        rcases inTime with early | raised
        · omega
        · exact raised) _ rfl
    exact ⟨last, data, answers, begins⟩
  · intro ρ ahead other regular silences early honest
    have paired : course.Paired other holds ahead command octet sent
        ((course.beats sent).instant + time) (sent + 1)
        (.watching (Exchange.watchTime course.settings)) := by
      constructor
      · exact stands
      · exact .begins _ watching
      · exact .begins _ (silences.stage.trans watching)
      · exact silences.alike
      · exact fun _ => silences.unready
    exact paired.completes passes inflow regular silences (by omega) honest

end

end Worker.Course

namespace TimedLine

def lateReply : List (Nat × UInt8) := [(18, 1), (18, 3)]

/-- A worker with one command in hand that gets a turn every millisecond, on a
line that announces its reply. -/
def announced : Worker.Course TimedLine :=
  { course 40 none lateReply with
    beats := fun index =>
      { instant := index
        events :=
          if index = 18 then [.dataAvailable true false] else [] } }

def unannounced : Worker.Course TimedLine :=
  { announced with
    line := interface.hushed
    beats := fun index =>
      { instant := index
        events := [] } }

theorem announced_passes : announced.Passes :=
  { ordered := Nat.le_succ
    endless := fun instant => ⟨instant, Nat.le_refl instant⟩ }

theorem silences :
    unannounced.Silences announced holds ahead 3 := by
  constructor
  · rfl
  · rfl
  · exact fun _ => rfl
  · decide +kernel
  · decide +kernel
  · constructor <;> decide +kernel

theorem announces : announced.Announces holds 3 := by
  constructor
  · decide +kernel
  · intro index _ event member _
    obtain rfl : index = 18 := by
      by_contra other
      simp [announced, other] at member
    decide +kernel
  · rintro now line event ⟨⟩

end TimedLine

open TimedLine

/-- An event comes seventeen milliseconds ahead of the reply, and the reply is
still found.  An event that comes with the reply makes no difference. -/
theorem Worker.Course.announced_reply_returned :
    (∃ index data, ((course 40 (some 1) lateReply).before index).answers =
      [{ number := 1
         outcome := .ok data }] ∧ data.head? = some 1) ∧
    ∃ last data, data.head? = some 1 ∧
      announced.Completes command 4 last (.ok data) ∧
      unannounced.Completes command 4 last (.ok data) := by
  constructor
  · let course := course 40 (some 1) lateReply
    have watching : (course.before (3 + 1)).worker.stage =
        .busy command (.watching (Exchange.watchTime course.settings)) := by
      decide +kernel
    have arrives : (holds ((course.beats 3).instant + 18)
        (course.before (3 + 1)).wire.line).head? = some 1 := by
      decide +kernel
    obtain ⟨index, data, answers, begins⟩ := (first_octet_returned
      (passes 40 (some 1) lateReply) inflow (by decide) watching arrives
      (Or.inl (by decide))).1
    rcases begins with first | ⟨_, look, _, _, _, _, before⟩
    · exact ⟨index, data, answers, first⟩
    · exact (Nat.not_lt_zero _ (Nat.lt_of_add_lt_add_right before)).elim
  · have watching : (announced.before (3 + 1)).worker.stage =
        .busy command
          (.watching (Exchange.watchTime announced.settings)) := by
      decide +kernel
    have arrives : (holds ((announced.beats 3).instant + 15)
        (announced.before (3 + 1)).wire.line).head? = some 1 := by
      decide +kernel
    exact (first_octet_returned announced_passes inflow (by decide) watching
      arrives (Or.inl (by decide))).2 ahead unannounced regular silences
        (by decide) (announces.honest announced_passes inflow watching)

/-- A reply arrives within a valid response wait, and the command comes to
something else. -/
def TimedLine.Misses (wait : UInt64) (announced : Option Nat)
    (arrival : Nat) (answer : Option Bytes) : Prop :=
  let course := course wait announced [(arrival, 1)]
  course.settings.validate = .ok () ∧ arrival ≤ course.settings.wait ∧
    (course.before 4).worker.stage =
      .busy command (.watching (Exchange.watchTime course.settings)) ∧
    (holds ((course.beats 3).instant + arrival)
      (course.before 4).wire.line).head? = some 1 ∧
    ∃ index, (course.before index).answers.map CommandAnswer.octets? =
      [answer]

/-- A reply is missed by an event far ahead of it, behind the last look, and
after a response wait that is too long to be counted. -/
theorem Worker.Course.first_octet_missed :
    interface.Inflow holds ∧ Misses 40 (some 1) 30 (some []) ∧
      Misses 41 none 41 none ∧ Misses 0x8000000000000000 none 1 none := by
  refine ⟨inflow, ?_, ?_, ?_⟩
  · refine ⟨rfl, by decide, by decide +kernel, by decide +kernel, 300, ?_⟩
    decide +kernel
  · refine ⟨rfl, by decide, by decide +kernel, by decide +kernel, 600, ?_⟩
    decide +kernel
  · refine ⟨rfl, by decide, by decide +kernel, by decide +kernel, 12, ?_⟩
    decide +kernel

end MeterLine
