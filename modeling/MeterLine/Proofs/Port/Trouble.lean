import MeterLine.Proofs.Port.Bearing

/-!
# Trouble with the line

A port has trouble when its line could not be opened, or was lost to the
hardware.  What every action means for the attempts to open the line is said
here once: trouble ends in a pause, a pause ends in another attempt, and a
signal ends both.
-/

namespace MeterLine

namespace Port

variable {port next : Port σ} {now : Nat} {action : Action}

def Action.isSignal : Action → Bool
  | .cancel => true
  | .dispose => true
  | _ => false

def Signalled (port : Port σ) : Prop :=
  port.cancelSignal = true ∨ port.disposeSignal = true

theorem not_signalled (going : port.cancelSignal = false)
    (used : port.disposeSignal = false) : ¬port.Signalled := by
  rintro (cancelled | disposed)
  · rw [going] at cancelled
    cases cancelled
  · rw [used] at disposed
    cases disposed

theorem Signalled.perform (signalled : port.Signalled) (line : Line σ)
    (now : Nat) (action : Action) :
    (port.perform line now action).Signalled := by
  obtain ⟨disposed, cancelled⟩ := port.signals_perform line now action
  rcases signalled with already | already
  · by_cases cancels : action = .cancel
    · rw [cancels]
      exact Or.inl rfl
    · exact Or.inl ((cancelled cancels).trans already)
  · exact Or.inr (disposed already)

theorem signals_perform_of_other (port : Port σ) (line : Line σ) (now : Nat)
    (other : action.isSignal = false) :
    (port.perform line now action).cancelSignal = port.cancelSignal ∧
      (port.perform line now action).disposeSignal = port.disposeSignal := by
  cases action with
  | submit request =>
      rcases port.submit_cases request with ⟨_, _, _, equality⟩ | equality <;>
        simp [Port.perform, equality]
  | cancel => cases other
  | dispose => cases other
  | answerOpen fault =>
      simp only [Port.perform, answerOpen]
      split
      · rcases fault with _ | ⟨_ | _ | _ | _, _⟩ <;> exact ⟨rfl, rfl⟩
      · exact ⟨rfl, rfl⟩
  | supervise => exact signals_supervise port now
  | _ => exact ⟨rfl, rfl⟩

theorem Begins.reopenDelay (begins : port.Begins next) :
    next.reopenDelay = port.reopenDelay := by
  cases begins <;> rfl

theorem reopenDelay_pause (port : Port σ) (now : Nat) :
    (port.pause now).reopenDelay = port.reopenDelay := by
  have pauses := port.pause_pauses now
  generalize port.pause now = next at pauses
  cases pauses with
  | begins _ begins => exact begins.reopenDelay
  | waits => rfl

theorem reopenDelay_tearDown (port : Port σ) (now : Nat)
    (cause : SessionEnd) :
    (port.tearDown now cause).reopenDelay = port.reopenDelay := by
  cases cause with
  | cancelled => rfl
  | disposed => rfl
  | hardwareFault => exact reopenDelay_pause _ now

theorem reopenDelay_awaitWorker (port : Port σ) (now : Nat)
    (cause : SessionEnd) (deadline : Nat) :
    (port.awaitWorker now cause deadline).reopenDelay =
      port.reopenDelay := by
  rcases port.awaitWorker_cases now cause deadline with
    ⟨_, same⟩ | ⟨phase, _, same⟩
  · rw [same]
    exact reopenDelay_tearDown port now cause
  · rw [same]

theorem reopenDelay_resume (port : Port σ) (now : Nat) (fault : OpenFault) :
    (port.resume now fault).reopenDelay = port.reopenDelay := by
  rcases fault with _ | ⟨_ | _ | _ | _, failure⟩
  · obtain ⟨ready, resumed, delay⟩ : ∃ ready : Port σ,
        port.resume now none = ready.checkSession now ∧
          ready.reopenDelay = port.reopenDelay := ⟨_, rfl, rfl⟩
    rw [resumed, checkSession, ← delay]
    split
    · exact reopenDelay_awaitWorker ready.cut now _ _
    · rfl
  all_goals exact reopenDelay_pause _ now

theorem reopenDelay_supervise (port : Port σ) (now : Nat) :
    (port.supervise now).reopenDelay = port.reopenDelay := by
  have supervises := port.supervise_supervises now
  generalize port.supervise now = next at supervises
  cases supervises with
  | waits => rfl
  | begins _ _ begins => exact begins.reopenDelay
  | resumes fault => exact reopenDelay_resume port now fault
  | ends cause => exact reopenDelay_awaitWorker port.cut now cause _
  | awaits cause deadline =>
      exact reopenDelay_awaitWorker port now cause deadline
  | tearsDown cause => exact reopenDelay_tearDown port now cause

theorem reopenDelay_perform (port : Port σ) (line : Line σ) (now : Nat)
    (action : Action) :
    (port.perform line now action).reopenDelay = port.reopenDelay := by
  cases action with
  | submit request =>
      rcases port.submit_cases request with ⟨_, _, _, equality⟩ | equality <;>
        simp [perform, equality]
  | dispose =>
      simp only [perform, dispose]
      split <;> rfl
  | answerOpen fault =>
      simp only [perform, answerOpen]
      split
      · rcases fault with _ | ⟨_ | _ | _ | _, _⟩ <;> rfl
      · rfl
  | supervise => exact reopenDelay_supervise port now
  | _ => rfl

/-- A session has to end, or is being ended, because of the hardware. -/
def EndsByHardware (port : Port σ) : Prop :=
  port.phase.faulted = true ∨
    port.phase = .serving ∧ port.sessionEnd? = some .hardwareFault

/-- The line is open for a session that begins, goes on or is being ended. -/
def HasLine (port : Port σ) : Prop :=
  port.phase = .opened none ∨ port.phase.inSession = true

/-- The line could not be opened, or was lost to the hardware. -/
def InTrouble (port : Port σ) : Prop :=
  (∃ trouble, port.phase = .opened (some trouble)) ∨ port.EndsByHardware

/-- What an action means for the attempts to open the line. -/
inductive Proceeds (port : Port σ) (now : Nat) (action : Action)
    (next : Port σ) : Prop where
  | stays :
      next.phase = port.phase → next.attempts = port.attempts →
      Proceeds port now action next
  | answered (fault : OpenFault) :
      action = .answerOpen fault → port.phase = .opening →
      next.phase = .opened fault → next.attempts = port.attempts →
      Proceeds port now action next
  | serves :
      port.HasLine → next.phase.inSession = true →
      next.attempts = port.attempts → Proceeds port now action next
  | leaves :
      port.HasLine → ¬port.EndsByHardware →
      next.phase = .finished → next.attempts = port.attempts →
      Proceeds port now action next
  | begins :
      (port.phase = .starting ∨
        ∃ deadline, port.phase = .pausing deadline ∧ deadline ≤ now) →
      ¬port.Signalled → next.phase = .opening →
      next.attempts = port.attempts + 1 → Proceeds port now action next
  | pauses :
      port.InTrouble → ¬port.Signalled →
      next.phase = .pausing (now + port.reopenDelay) →
      next.attempts = port.attempts → Proceeds port now action next
  | finishes :
      (port.phase = .starting ∨ (∃ deadline, port.phase = .pausing deadline) ∨
        port.InTrouble) →
      port.Signalled → next.phase = .finished →
      next.attempts = port.attempts → Proceeds port now action next

theorem EndsByHardware.inSession (ends : port.EndsByHardware) :
    port.phase.inSession = true := by
  rcases ends with faulted | ⟨serving, _⟩
  · cases phase : port.phase <;> simp [phase, Phase.faulted] at faulted <;> rfl
  · rw [serving]
    rfl

/-- The line has answered the latest attempt, and the port has not dealt with
all that came of it. -/
def Phase.busy : Phase → Bool
  | .opened _ => true
  | phase => phase.inSession

theorem InTrouble.busy (trouble : port.InTrouble) :
    port.phase.busy = true := by
  rcases trouble with ⟨trouble, opened⟩ | ends
  · rw [opened]
    rfl
  · have inside := ends.inSession
    cases phase : port.phase <;> rw [phase] at inside <;>
      first | rfl | cases inside

theorem InTrouble.endsByHardware (trouble : port.InTrouble)
    (line : port.HasLine) : port.EndsByHardware := by
  rcases trouble with ⟨trouble, opened⟩ | ends
  · rcases line with served | inside
    · rw [opened] at served
      cases served
    · rw [opened] at inside
      cases inside
  · exact ends

/-- What decides when the line is opened again, besides the phase. -/
def agenda (port : Port σ) : UInt64 × Nat × Bool × Bool :=
  (port.attempts, port.reopenDelay, port.cancelSignal, port.disposeSignal)

theorem proceeds_pause (delayed : 0 < port.reopenDelay)
    (trouble : port.InTrouble) {other : Port σ}
    (same : other.agenda = port.agenda) :
    port.Proceeds now action (other.pause now) := by
  simp only [agenda, Prod.mk.injEq] at same
  obtain ⟨attempts, delay, cancelled, disposed⟩ := same
  rw [← delay] at delayed
  have pauses := other.pause_pauses now
  generalize paused : other.pause now = next at pauses
  cases pauses with
  | begins _ begins =>
      cases begins with
      | finishes state signalled =>
          refine .finishes (.inr (.inr trouble)) ?_ rfl attempts
          rcases signalled with ⟨_, signal⟩ | ⟨_, signal⟩
          · exact .inr (disposed.symm.trans signal)
          · exact .inl (cancelled.symm.trans signal)
      | opens going used =>
          -- A delay is never skipped.
          have skipped := congrArg Port.phase paused
          simp [pause, going, used, Nat.ne_of_gt delayed] at skipped
  | waits going used =>
      refine .pauses trouble ?_ (by rw [delay]) attempts
      exact not_signalled (cancelled.symm.trans going)
        (disposed.symm.trans used)

theorem proceeds_tearDown (delayed : 0 < port.reopenDelay)
    (line : port.HasLine) {cause : SessionEnd}
    (ends : port.EndsByHardware ↔ cause = .hardwareFault) {other : Port σ}
    (same : other.agenda = port.agenda) :
    port.Proceeds now action (other.tearDown now cause) := by
  have attempts : other.attempts = port.attempts := congrArg Prod.fst same
  cases cause with
  | cancelled =>
      exact .leaves line (fun hardware => nomatch ends.mp hardware) rfl attempts
  | disposed =>
      exact .leaves line (fun hardware => nomatch ends.mp hardware) rfl attempts
  | hardwareFault =>
      exact proceeds_pause delayed (.inr (ends.mpr rfl)) same

theorem proceeds_awaitWorker (delayed : 0 < port.reopenDelay)
    (line : port.HasLine) {cause : SessionEnd}
    (ends : port.EndsByHardware ↔ cause = .hardwareFault) {other : Port σ}
    (same : other.agenda = port.agenda) (deadline : Nat) :
    port.Proceeds now action (other.awaitWorker now cause deadline) := by
  rcases other.awaitWorker_cases now cause deadline with
    ⟨_, torn⟩ | ⟨phase, ending, waits⟩
  · rw [torn]
    exact proceeds_tearDown delayed line ends same
  · rw [waits]
    refine .serves line ?_ (congrArg Prod.fst same)
    cases ending <;> rfl

theorem proceeds_resume (delayed : 0 < port.reopenDelay) {fault : OpenFault}
    (opened : port.phase = .opened fault) :
    port.Proceeds now action (port.resume now fault) := by
  rcases fault with _ | ⟨stage, failure⟩
  · -- The worker of a session that has just begun has not stopped, so that a
    -- session cannot end at once.
    refine .serves (.inl opened) (port.inSession_resume_of_success now) ?_
    obtain ⟨ready, resumed, attempts, going⟩ : ∃ ready : Port σ,
        port.resume now none = ready.checkSession now ∧
          ready.attempts = port.attempts ∧
          ready.worker.isStopped = false := ⟨_, rfl, rfl, rfl⟩
    rw [resumed, checkSession]
    split
    case h_1 cause ends =>
        rw [endSession_eq]
        rcases ready.cut.awaitWorker_cases now cause
            (now + grace ready.settings) with
          ⟨stopped, _⟩ | ⟨phase, _, waits⟩
        · exact (Bool.false_ne_true (going.symm.trans stopped)).elim
        · rw [waits]
          exact attempts
    case h_2 => exact attempts
  · obtain ⟨other, resumed, same⟩ : ∃ other : Port σ,
        port.resume now (some (stage, failure)) = other.pause now ∧
          other.agenda = port.agenda := by
      cases stage <;> exact ⟨_, rfl, rfl⟩
    rw [resumed]
    exact proceeds_pause delayed (.inl ⟨_, opened⟩) same

theorem proceeds_supervise (delayed : 0 < port.reopenDelay) (now : Nat) :
    port.Proceeds now action (port.supervise now) := by
  have supervises := port.supervise_supervises now
  generalize port.supervise now = next at supervises
  cases supervises with
  | waits => exact .stays rfl rfl
  | begins _ idle begins =>
      cases begins with
      | finishes state signalled =>
          refine .finishes ?_ ?_ rfl rfl
          · rcases idle with starting | ⟨deadline, pausing, _⟩
            · exact .inl starting
            · exact .inr (.inl ⟨deadline, pausing⟩)
          · rcases signalled with ⟨_, disposed⟩ | ⟨_, cancelled⟩
            · exact .inr disposed
            · exact .inl cancelled
      | opens going used =>
          refine .begins ?_ (not_signalled going used) rfl rfl
          rcases idle with starting | ⟨deadline, pausing, due⟩
          · exact .inl starting
          · refine .inr ⟨deadline, pausing, ?_⟩
            simpa [going, used] using due
  | resumes fault opened => exact proceeds_resume delayed opened
  | ends cause serving ends =>
      have line : port.HasLine := .inr (by rw [serving]; rfl)
      have same : port.cut.agenda = port.agenda := rfl
      rw [endSession_eq]
      refine proceeds_awaitWorker delayed line ?_ same _
      simp [EndsByHardware, serving, Phase.faulted, ends]
  | awaits cause deadline closing =>
      have line : port.HasLine := .inr (by rw [closing]; rfl)
      refine proceeds_awaitWorker delayed line ?_ rfl deadline
      cases cause <;> simp [EndsByHardware, closing, Phase.faulted]
  | tearsDown cause aborting =>
      have line : port.HasLine := .inr (by rw [aborting]; rfl)
      refine proceeds_tearDown delayed line ?_ rfl
      cases cause <;> simp [EndsByHardware, aborting, Phase.faulted]

/-- Attempts begin and end by the line's answers and the supervisor's turns
alone. -/
theorem proceeds_perform (delayed : 0 < port.reopenDelay) (line : Line σ)
    (now : Nat) (action : Action) :
    port.Proceeds now action (port.perform line now action) := by
  cases action with
  | submit request =>
      rcases port.submit_cases request with ⟨_, _, _, equality⟩ | equality <;>
        rw [perform, equality] <;> exact .stays rfl rfl
  | dispose => exact .stays port.phase_dispose port.attempts_dispose
  | answerOpen fault =>
      by_cases opening : port.phase = .opening
      · exact .answered fault rfl opening (phase_answerOpen opening fault)
          (port.attempts_answerOpen fault)
      · rw [perform, answerOpen, if_neg opening]
        exact .stays rfl rfl
  | supervise => exact proceeds_supervise delayed now
  | _ => exact .stays rfl rfl

/-- An attempt to open the line begins. -/
def Opens (port next : Port σ) : Prop :=
  port.phase ≠ .opening ∧ next.phase = .opening

instance (port next : Port σ) : Decidable (port.Opens next) :=
  inferInstanceAs (Decidable (_ ∧ _))

namespace Proceeds

/-- The counter of a port counts the attempts that begin. -/
theorem opens_iff (proceeds : port.Proceeds now action next) :
    port.Opens next ∧ next.attempts = port.attempts + 1 ∨
      ¬port.Opens next ∧ next.attempts = port.attempts := by
  cases proceeds with
  | stays same count =>
      exact .inr ⟨fun opens => opens.1 (same ▸ opens.2), count⟩
  | answered _ _ _ opened count => exact .inr ⟨by simp [Opens, opened], count⟩
  | serves _ inside count =>
      refine .inr ⟨?_, count⟩
      rintro ⟨_, opening⟩
      rw [opening] at inside
      cases inside
  | leaves _ _ finished count =>
      exact .inr ⟨by simp [Opens, finished], count⟩
  | begins idle _ opening count =>
      refine .inl ⟨⟨?_, opening⟩, count⟩
      rcases idle with starting | ⟨_, pausing, _⟩
      · simp [starting]
      · simp [pausing]
  | pauses _ _ pausing count => exact .inr ⟨by simp [Opens, pausing], count⟩
  | finishes _ _ finished count =>
      exact .inr ⟨by simp [Opens, finished], count⟩

theorem attempts_of_signalled (proceeds : port.Proceeds now action next)
    (signalled : port.Signalled) : next.attempts = port.attempts := by
  cases proceeds with
  | begins _ going => exact (going signalled).elim
  | _ => assumption

theorem attempts_of_phase (proceeds : port.Proceeds now action next)
    (same : next.phase = port.phase) : next.attempts = port.attempts := by
  cases proceeds with
  | begins idle _ opening =>
      rw [opening] at same
      rcases idle with starting | ⟨_, pausing, _⟩ <;> simp_all
  | _ => assumption

/-- A port in trouble, once its session is torn down, pauses or ends. -/
theorem of_trouble (proceeds : port.Proceeds now action next)
    (trouble : port.InTrouble) (leaves : next.phase ≠ port.phase)
    (outside : port.EndsByHardware → next.phase.inSession = false) :
    next.attempts = port.attempts ∧
      (next.phase = .pausing (now + port.reopenDelay) ∨ port.Signalled) := by
  have busy := trouble.busy
  cases proceeds with
  | stays same => exact (leaves same).elim
  | answered _ _ opening => rw [opening] at busy; cases busy
  | serves line inside =>
      have ends := trouble.endsByHardware line
      exact (Bool.false_ne_true ((outside ends).symm.trans inside)).elim
  | leaves line sound => exact (sound (trouble.endsByHardware line)).elim
  | begins idle =>
      rcases idle with starting | ⟨_, pausing, _⟩
      · rw [starting] at busy; cases busy
      · rw [pausing] at busy; cases busy
  | pauses _ _ pausing attempts => exact ⟨attempts, .inl pausing⟩
  | finishes _ signalled _ attempts => exact ⟨attempts, .inr signalled⟩

/-- A pause ends with another attempt, or because of a signal. -/
theorem of_pausing (proceeds : port.Proceeds now action next) {deadline : Nat}
    (pausing : port.phase = .pausing deadline)
    (leaves : next.phase ≠ port.phase) :
    deadline ≤ now ∧ next.attempts = port.attempts + 1 ∨
      port.Signalled ∧ next.attempts = port.attempts := by
  have elsewhere : ¬port.InTrouble := by
    simp [InTrouble, EndsByHardware, pausing, Phase.faulted]
  have lineless : ¬port.HasLine := by
    simp [HasLine, pausing, Phase.inSession]
  cases proceeds with
  | stays same => exact (leaves same).elim
  | answered fault _ opening =>
      rw [pausing] at opening
      cases opening
  | serves line => exact (lineless line).elim
  | leaves line => exact (lineless line).elim
  | begins idle _ _ attempts =>
      rcases idle with starting | ⟨_, same, due⟩
      · rw [pausing] at starting
        cases starting
      · rw [pausing] at same
        cases same
        exact .inl ⟨due, attempts⟩
  | pauses trouble => exact (elsewhere trouble).elim
  | finishes _ signalled _ attempts => exact .inr ⟨signalled, attempts⟩

end Proceeds

end Port

end MeterLine
