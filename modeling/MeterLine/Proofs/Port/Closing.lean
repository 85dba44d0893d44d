import MeterLine.Proofs.Port.Disposal

/-!
# Handles are closed

A session that has to end is told so when the supervisor gets its turn.  Then
its worker has the time of its grace, and is told to end where it stands if it
has not stopped by then, so that the session is torn down whatever its worker
was doing.  With what a chronicle knows of the attempts that are over, every
handle whose session has to end is closed, and closed once.
-/

namespace MeterLine

namespace Wire

/-- The hardware is out of order, or nobody listens to it. -/
def Alarmed (wire : Wire σ) : Prop :=
  wire.faults ≠ [] ∨ wire.listening = false

theorem Alarmed.hear {wire : Wire σ} (alarmed : wire.Alarmed)
    (event : PortEvent) : (wire.hear event).Alarmed := by
  unfold Wire.hear
  split
  · cases event with
    | dataAvailable now before => exact alarmed
    | hardwareFault message => exact Or.inl (by simp)
  · exact alarmed

theorem Alarmed.take {wire : Wire σ} (alarmed : wire.Alarmed)
    (answer : LineAnswer σ α) : (wire.take answer).Alarmed := by
  have moved : Alarmed { wire with line := answer.line } := alarmed
  unfold Wire.take
  generalize { wire with line := answer.line } = wire at moved
  induction answer.events generalizing wire with
  | nil => exact moved
  | cons event events induction => exact induction _ (moved.hear event)

end Wire

theorem Exchange.Moves.alarmed {settings : PortSettings} {line : Line σ}
    {now : Nat} {request : Bytes} {wire : Wire σ} {phase : Phase}
    {result : Step σ}
    (moves : Moves settings line now request wire phase result)
    (alarmed : wire.Alarmed) : result.wire.Alarmed := by
  cases moves <;> first | exact alarmed | exact alarmed.take _

namespace Port

variable {port : Port σ} {now : Nat}

theorem alarmed_workerProgress (alarmed : port.wire.Alarmed) (line : Line σ)
    (now : Nat) : (port.workerProgress line now).wire.Alarmed := by
  cases port.workTurn line now with
  | rests _ _ same => rw [same]; exact alarmed
  | stops _ _ _ same => rw [same]; exact alarmed
  | takes _ _ _ _ _ _ same => rw [same]; exact alarmed
  | proceeds command phase later _ _ step =>
      rw [← Exchange.Step.wire_of_goesOn step]
      exact (Exchange.step_moves port.settings line now command.request
        phase port.wire).alarmed alarmed
  | concludes command phase outcome wire _ _ step _ after =>
      have still := (Exchange.step_moves port.settings line now
        command.request phase port.wire).alarmed alarmed
      rw [step] at still
      rw [after]
      split
      · exact still
      · exact still
  | givesUp _ _ _ _ _ _ same => rw [same]; exact alarmed

theorem sessionEnd?_ne_none (port : Port σ) :
    port.sessionEnd? ≠ none ↔
      port.cancelSignal = true ∨ port.disposeSignal = true ∨
        port.wire.Alarmed := by
  unfold sessionEnd? Wire.Alarmed
  cases port.cancelSignal <;> cases port.disposeSignal <;>
    simp [imp_iff_not_or]

/-- Only the supervisor goes on from a phase in which the line was opened. -/
theorem perform_of_opened {phase : Phase} (stands : port.phase = phase)
    (opened : phase ≠ .opening) (line : Line σ) (now : Nat) {action : Action}
    (others : action ≠ .supervise) :
    (port.perform line now action).phase = port.phase ∧
      (port.perform line now action).wire.handleActs =
        port.wire.handleActs := by
  cases action with
  | submit request =>
      rcases port.submit_cases request with ⟨_, _, _, equality⟩ | equality <;>
        simp [perform, equality]
  | dispose => exact ⟨phase_dispose port, handleActs_dispose port⟩
  | raise event => exact ⟨rfl, port.wire.handleActs_hear event⟩
  | answerOpen fault =>
      rw [← stands] at opened
      simp only [perform, answerOpen, opened, if_false]
      exact ⟨trivial, trivial⟩
  | supervise => exact (others rfl).elim
  | work => exact ⟨rfl, (carries_workerProgress line now port).handleActs⟩
  | abandon | cancel | loseListener => exact ⟨rfl, rfl⟩

/-- Nothing but the supervisor does away with the reason why a session has to
end. -/
theorem sessionEnd?_perform (settled : port.phase ≠ .opening)
    (ends : port.sessionEnd? ≠ none) (line : Line σ) {action : Action}
    (others : action ≠ .supervise) :
    (port.perform line now action).sessionEnd? ≠ none := by
  rw [sessionEnd?_ne_none] at ends ⊢
  cases action with
  | submit request =>
      rcases port.submit_cases request with ⟨_, _, _, equality⟩ | equality <;>
        simpa [perform, equality] using ends
  | cancel => exact Or.inl rfl
  | dispose =>
      rcases ends with cancelled | disposed | alarmed
      · left
        simp only [perform, dispose]
        split <;> exact cancelled
      · exact Or.inr (Or.inl ((signals_perform port line now .dispose).1
          disposed))
      · right; right
        simp only [perform, dispose]
        split <;> exact alarmed
  | raise event =>
      exact ends.imp id (Or.imp id fun alarmed => alarmed.hear event)
  | loseListener => exact Or.inr (Or.inr (Or.inr rfl))
  | answerOpen fault =>
      simpa only [perform, answerOpen, settled, if_false] using ends
  | supervise => exact (others rfl).elim
  | work =>
      exact ends.imp id
        (Or.imp id fun alarmed => alarmed_workerProgress alarmed line now)
  | abandon => exact ends

/-- A port without a session, with what was done to its handles. -/
structure Released (port : Port σ) (acts : List Act) : Prop where
  outside : port.phase.inSession = false
  done : port.wire.handleActs = acts

theorem released_tearDown (port : Port σ) (now : Nat) (cause : SessionEnd) :
    (port.tearDown now cause).Released
      (port.wire.handleActs ++ Attempt.tearDownActs cause) :=
  ⟨(leaves_tearDown port now cause).outside,
    handleActs_tearDown port now cause⟩

namespace Course

variable {course : Course σ} {beat : Nat}

/-- What is kept until something happens still holds when it first does. -/
theorem kept_until (kept : Port σ → Prop) (happens : Nat → Prop)
    (now : kept (course.before beat))
    (keeps : ∀ later, beat ≤ later → kept (course.before later) →
      ¬happens later → kept (course.before (later + 1)))
    (comes : ∃ later, beat ≤ later ∧ happens later) :
    ∃ later, beat ≤ later ∧ happens later ∧ kept (course.before later) := by
  obtain ⟨later, le, comes⟩ := comes
  have goesOn : ∀ later, beat ≤ later → kept (course.before later) ∨
      ∃ met, beat ≤ met ∧ happens met ∧ kept (course.before met) := by
    intro later le
    induction later, le using Nat.le_induction with
    | base => exact Or.inl now
    | succ later le induction =>
        rcases induction with still | met
        · by_cases first : happens later
          · exact Or.inr ⟨later, le, first, still⟩
          · exact Or.inl (keeps later le still first)
        · exact Or.inr met
  rcases goesOn later le with still | met
  · exact ⟨later, le, comes, still⟩
  · exact met

/-- Until the supervisor gets its turn a port stays in a phase in which its line
was opened, and nothing is done to the handle. -/
theorem found_by_supervisor (fair : course.Fair) {phase : Phase}
    {acts : List Act} (opened : phase ≠ .opening) (kept : Port σ → Prop)
    (stands : (course.before beat).phase = phase)
    (known : (course.before beat).wire.handleActs = acts)
    (now : kept (course.before beat))
    (keeps : ∀ later, (course.before later).phase = phase →
      kept (course.before later) → course.action later ≠ .supervise →
      kept ((course.before later).perform course.line (course.instant later)
        (course.action later))) :
    ∃ turn, beat ≤ turn ∧ course.action turn = .supervise ∧
      (course.before turn).phase = phase ∧
      (course.before turn).wire.handleActs = acts ∧
      kept (course.before turn) := by
  refine kept_until
    (fun port => port.phase = phase ∧ port.wire.handleActs = acts ∧ kept port)
    (fun beat => course.action beat = .supervise)
    ⟨stands, known, now⟩ ?_ (fair.supervised beat)
  rintro later _ ⟨stands, known, still⟩ others
  have same := perform_of_opened stands opened course.line
    (course.instant later) others
  rw [before_succ]
  exact ⟨same.1.trans stands, same.2.trans known,
    keeps later stands still others⟩

theorem released_of_stopped (fair : course.Fair) {cause : SessionEnd}
    {acts : List Act}
    (aborting : (course.before beat).phase = .aborting cause)
    (stopped : (course.before beat).worker.stage = .stopped)
    (known : (course.before beat).wire.handleActs = acts) :
    ∃ later, beat ≤ later ∧ (course.before later).Released
      (acts ++ Attempt.tearDownActs cause) := by
  obtain ⟨turn, le, supervised, aborting, known, stopped⟩ :=
    found_by_supervisor fair (by simp)
      (fun port => port.worker.stage = .stopped) aborting known stopped (by
        intro later aborting stopped _
        refine stopped_perform stopped _ _ ?_
        cases action : course.action later <;>
          simp [beginsSession, aborting])
  refine ⟨turn + 1, Nat.le_succ_of_le le, ?_⟩
  have torn : (course.before turn).supervise (course.instant turn) =
      (course.before turn).tearDown (course.instant turn) cause := by
    simp [supervise, aborting, Worker.isStopped, stopped]
  rw [before_succ, supervised, perform, torn, ← known]
  exact released_tearDown _ _ _

/-- A worker that was told to end where it stands does so when it gets its turn,
unless it had stopped before. -/
theorem released_of_aborting (fair : course.Fair) {cause : SessionEnd}
    {acts : List Act}
    (aborting : (course.before beat).phase = .aborting cause)
    (known : (course.before beat).wire.handleActs = acts) :
    ∃ later, beat ≤ later ∧ (course.before later).Released
      (acts ++ Attempt.tearDownActs cause) := by
  obtain ⟨turn, le, work, aborting, known⟩ := kept_until
    (fun port => port.phase = .aborting cause ∧
      port.wire.handleActs = acts)
    (fun beat => course.action beat = .work ∨
      (course.before beat).worker.stage = .stopped)
    ⟨aborting, known⟩
    (by
      rintro later _ ⟨aborting, known⟩ others
      have going : (course.before later).worker.isStopped = false := by
        simpa [Worker.isStopped] using (not_or.mp others).2
      rw [before_succ]
      by_cases turn : course.action later = .supervise
      · simp only [turn, perform, supervise, aborting, going,
          Bool.false_eq_true, if_false]
        exact ⟨trivial, known⟩
      · have kept := perform_of_opened aborting (by simp) course.line
          (course.instant later) turn
        exact ⟨kept.1.trans aborting, kept.2.trans known⟩)
    ((fair.worked beat).imp fun _ found => ⟨found.1, Or.inl found.2⟩)
  rcases work with work | stopped
  · have next : course.before (turn + 1) =
        (course.before turn).work course.line (course.instant turn) := by
      rw [before_succ, work]
      rfl
    have stopped := stopped_work_of_aborting aborting course.line
      (course.instant turn)
    have same := (carries_workerProgress course.line (course.instant turn)
      (course.before turn)).handleActs
    rw [← next] at stopped
    have still : (course.before (turn + 1)).phase = .aborting cause := by
      rw [next]
      exact aborting
    have after : (course.before (turn + 1)).wire.handleActs = acts := by
      rw [next]
      exact same.trans known
    obtain ⟨later, since, torn⟩ := released_of_stopped fair still stopped after
    exact ⟨later, by omega, torn⟩
  · obtain ⟨later, since, torn⟩ :=
      released_of_stopped fair aborting stopped known
    exact ⟨later, Nat.le_trans le since, torn⟩

theorem released_of_closing (fair : course.Fair) {cause : SessionEnd}
    {deadline : Nat} {acts : List Act}
    (closing : (course.before beat).phase = .closing cause deadline)
    (known : (course.before beat).wire.handleActs = acts) :
    ∃ later, beat ≤ later ∧ (course.before later).Released
      (acts ++ Attempt.tearDownActs cause) := by
  obtain ⟨due, late⟩ := fair.endless deadline
  obtain ⟨last, behind, supervised⟩ := fair.supervised (max beat due)
  have overdue : deadline ≤ course.instant last :=
    Nat.le_trans late (Disposes.instant_mono fair (by omega))
  obtain ⟨turn, le, ⟨supervised, reason⟩, closing, known⟩ := kept_until
    (fun port => port.phase = .closing cause deadline ∧
      port.wire.handleActs = acts)
    (fun beat => course.action beat = .supervise ∧
      (deadline ≤ course.instant beat ∨
        (course.before beat).worker.isStopped = true))
    ⟨closing, known⟩
    (by
      rintro later _ ⟨closing, known⟩ others
      rw [before_succ]
      by_cases turn : course.action later = .supervise
      · have waits : ¬deadline ≤ course.instant later ∧
            (course.before later).worker.isStopped = false := by
          simpa [turn] using others
        simp only [turn, perform, supervise, closing, awaitWorker, waits,
          Bool.false_eq_true, if_false]
        exact ⟨trivial, known⟩
      · have kept := perform_of_opened closing (by simp) course.line
          (course.instant later) turn
        exact ⟨kept.1.trans closing, kept.2.trans known⟩)
    ⟨last, by omega, supervised, Or.inl overdue⟩
  have next : course.before (turn + 1) = (course.before turn).awaitWorker
      (course.instant turn) cause deadline := by
    simp only [before_succ, supervised, perform, supervise, closing]
  unfold awaitWorker at next
  split at next
  case isTrue stopped =>
    refine ⟨turn + 1, Nat.le_succ_of_le le, ?_⟩
    rw [next, ← known]
    exact released_tearDown _ _ _
  case isFalse going =>
    rw [if_pos (reason.resolve_right going)] at next
    have aborting : (course.before (turn + 1)).phase = .aborting cause := by
      rw [next]
    have after : (course.before (turn + 1)).wire.handleActs = acts := by
      rw [next]
      exact known
    obtain ⟨later, since, torn⟩ := released_of_aborting fair aborting after
    exact ⟨later, by omega, torn⟩

theorem released_of_ends (fair : course.Fair) {cause : SessionEnd}
    {acts : List Act} (ends : (course.before beat).phase.Ends cause)
    (known : (course.before beat).wire.handleActs = acts) :
    ∃ later, beat ≤ later ∧ (course.before later).Released
      (acts ++ Attempt.tearDownActs cause) := by
  generalize phase : (course.before beat).phase = there at ends
  cases ends with
  | closing deadline => exact released_of_closing fair phase known
  | aborting => exact released_of_aborting fair phase known

theorem released_of_serving (fair : course.Fair)
    (serving : (course.before beat).phase = .serving)
    (ends : (course.before beat).sessionEnd? ≠ none) {acts : List Act}
    (known : (course.before beat).wire.handleActs = acts) :
    ∃ later, beat ≤ later ∧ ∃ cause, (course.before later).Released
      (acts ++ Attempt.tearDownActs cause) := by
  obtain ⟨turn, le, supervised, serving, known, ends⟩ :=
    found_by_supervisor fair (by simp) (fun port => port.sessionEnd? ≠ none)
      serving known ends (by
        intro later serving ends others
        exact sessionEnd?_perform (by simp [serving]) ends course.line others)
  obtain ⟨cause, ends⟩ := Option.ne_none_iff_exists'.mp ends
  have next : course.before (turn + 1) = (course.before turn).cut.awaitWorker
      (course.instant turn) cause
      (course.instant turn + grace (course.before turn).settings) := by
    simp only [before_succ, supervised, perform, supervise, serving, ends,
      endSession_eq]
  have cut := (handleActs_cut (course.before turn)).trans known
  rcases (course.before turn).cut.awaitWorker_cases (course.instant turn)
      cause (course.instant turn + grace (course.before turn).settings) with
    ⟨_, torn⟩ | ⟨phase, told, same⟩
  · refine ⟨turn + 1, Nat.le_succ_of_le le, cause, ?_⟩
    rw [next, torn, ← cut]
    exact released_tearDown _ _ _
  · have told : (course.before (turn + 1)).phase.Ends cause := by
      rw [next, same]
      exact told
    have after : (course.before (turn + 1)).wire.handleActs = acts := by
      rw [next, same]
      exact cut
    obtain ⟨later, since, torn⟩ := released_of_ends fair told after
    exact ⟨later, by omega, cause, torn⟩

/-- In fair circumstances a session that has to end is torn down, and nothing
else is done to its handle until then. -/
theorem session_torn_down (fair : course.Fair)
    (inside : (course.before beat).phase.inSession = true)
    (ends : (course.before beat).phase = .serving →
      (course.before beat).sessionEnd? ≠ none) :
    ∃ later, beat ≤ later ∧ ∃ cause, (course.before later).Released
      ((course.before beat).wire.handleActs ++
        Attempt.tearDownActs cause) := by
  cases phase : (course.before beat).phase with
  | serving => exact released_of_serving fair phase (ends phase) rfl
  | closing cause deadline =>
      obtain ⟨later, le, released⟩ := released_of_closing fair phase rfl
      exact ⟨later, le, cause, released⟩
  | aborting cause =>
      obtain ⟨later, le, released⟩ := released_of_aborting fair phase rfl
      exact ⟨later, le, cause, released⟩
  | _ =>
      rw [phase] at inside
      cases inside

/-- A line that was opened in vain is closed when the supervisor gets its
turn. -/
theorem opened_in_vain_closed (fair : course.Fair) {stage : OpenStage}
    {failure : Failure}
    (opened : (course.before beat).phase = .opened (some (stage, failure))) :
    ∃ later, beat ≤ later ∧ (course.before later).Released
      ((course.before beat).wire.handleActs ++
        Attempt.resumeActs (some (stage, failure))) := by
  obtain ⟨turn, le, supervised, opened, known, -⟩ :=
    found_by_supervisor fair (by simp) (fun _ => True) opened rfl trivial
      fun _ _ _ _ => trivial
  obtain ⟨other, resumed, _, acts⟩ := (course.before turn).resume_of_fault
    (course.instant turn) stage failure
  have next : course.before (turn + 1) =
      other.pause (course.instant turn) := by
    simp only [before_succ, supervised, perform, supervise, opened, resumed]
  refine ⟨turn + 1, Nat.le_succ_of_le le, ?_⟩
  have pauses := other.pause_pauses (course.instant turn)
  rw [next]
  constructor
  · exact pauses.leaves.outside
  · rw [Wire.handleActs, wire_pause, ← known, ← acts, Wire.handleActs]

end Course

end Port

namespace Chronicle

/-- Whatever happens to a port, every attempt to open its line asks for one
handle.  An attempt that is over closed its handle once, after the listener was
removed if it served a session, and cleaned up behind it once if the session
was cancelled or ended by the hardware, and not at all otherwise.  Handles are
asked for and used in turn, so that none is asked for while one is open, and
nothing is done to a handle while the worker of its session has not stopped.
In fair circumstances the handle of a session that has to end is closed, and so
is one that was opened in vain. -/
theorem handles_closed_once (settings : PortSettings) (reopenDelay : Nat)
    (state : σ) (line : Line σ) (actions : List (Nat × Port.Action)) :
    let first := Port.fresh settings reopenDelay state
    let port := first.run line actions
    let chronicle := (fresh settings reopenDelay state).run line actions
    chronicle.port = port ∧
    port.wire.handleActs =
      chronicle.attempts.reverse.flatMap Attempt.acts ∧
    UInt64.ofNat chronicle.attempts.length = port.attempts ∧
    (port.phase ≠ .opening →
      port.wire.handleActs.count .opened = chronicle.attempts.length) ∧
    Fits port.phase chronicle.attempts ∧
    (∀ attempt ∈ chronicle.attempts, attempt.Over →
      attempt.acts.count .closed = attempt.acts.count .configured ∧
      attempt.acts.count .cleaned =
        if attempt.ending = some .cancelled ∨
          attempt.ending = some .hardwareFault then 1 else 0) ∧
    (∀ known, ∃ isOpen,
      Act.handleThrough (port.wire.handleActs.take known) false =
        some isOpen) ∧
    (∀ earlier now action later, actions = earlier ++ (now, action) :: later →
      let before := first.run line earlier
      before.worker.stage ≠ .stopped →
        (before.perform line now action).wire.handleActs =
          before.wire.handleActs) ∧
    ∀ beats : Nat → Nat × Port.Action,
      let course : Port.Course σ :=
        { settings := settings
          reopenDelay := reopenDelay
          line := line
          state := state
          beats := beats }
      course.Fair → ∀ beat,
        ((course.before beat).phase.inSession = true →
          ((course.before beat).phase = .serving →
            (course.before beat).sessionEnd? ≠ none) →
          ∃ later, beat ≤ later ∧ ∃ cause, (course.before later).Released
            ((course.before beat).wire.handleActs ++
              Attempt.tearDownActs cause)) ∧
        ∀ stage failure,
          (course.before beat).phase = .opened (some (stage, failure)) →
          ∃ later, beat ≤ later ∧ (course.before later).Released
            ((course.before beat).wire.handleActs ++
              Attempt.resumeActs (some (stage, failure))) := by
  intro first port chronicle
  have complete : chronicle.Complete :=
    complete_run settings reopenDelay state line actions
  have follows : chronicle.port = port :=
    (fresh settings reopenDelay state).run_port line actions
  refine ⟨follows, ?joined, ?counted, ?opened, ?fits, ?ended, ?orderly,
    ?still, ?closes⟩
  case joined => rw [← follows]; exact complete.joined
  case counted => rw [← follows]; exact complete.counted
  case opened => rw [← follows]; exact complete.count_opened
  case fits => rw [← follows]; exact complete.fits
  case ended =>
    intro attempt _ ended
    exact ⟨ended.count_closed, ended.count_cleaned⟩
  case orderly =>
    -- Whatever comes later, a prefix of acts in order is in order.
    intro known
    have orderly := complete.handleThrough
    rw [follows, ← List.take_append_drop known port.wire.handleActs,
      Act.handleThrough_append] at orderly
    obtain ⟨isOpen, front, _⟩ := Option.bind_eq_some_iff.mp orderly
    exact ⟨isOpen, front⟩
  case still =>
    intro earlier now action later _ before going
    have disciplined : before.Disciplined :=
      (Port.Disciplined.fresh settings reopenDelay state).run line earlier
    exact Port.handleActs_perform_of_going disciplined going line now action
  case closes =>
    intro beats course fair beat
    exact ⟨Port.Course.session_torn_down fair,
      fun stage failure => Port.Course.opened_in_vain_closed fair⟩

open Port in
theorem handle_closed_behind_fault :
    let course := Rota.course [(3, .raise (.hardwareFault "unplugged"))]
    (course.before 4).phase = .serving ∧
      ∃ later, 4 ≤ later ∧ ∃ cause, (course.before later).Released
        ((course.before 4).wire.handleActs ++
          Attempt.tearDownActs cause) := by
  intro course
  have serving : (course.before 4).phase = .serving := by decide
  have inside : (course.before 4).phase.inSession = true := by decide
  have ends : (course.before 4).sessionEnd? ≠ none := by decide
  obtain ⟨-, -, -, -, -, -, -, -, closes⟩ := handles_closed_once
    course.settings course.reopenDelay course.state course.line []
  have fair : course.Fair := Rota.fair _
  exact ⟨serving, (closes course.beats fair 4).1 inside fun _ => ends⟩

end Chronicle

end MeterLine
