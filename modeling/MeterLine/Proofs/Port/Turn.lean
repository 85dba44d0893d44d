import MeterLine.Proofs.Port.Moves

/-!
# Turns of the worker

Everything that a turn of the worker of a port may come to is said once, as a
relation.  From it follows that the worker runs in sessions only and leaves no
command behind in its queue when it stops.
-/

namespace MeterLine

/-- What a turn of the worker of a port may come to. -/
inductive Port.WorkTurn (line : Line σ) (now : Nat) (port : Port σ)
    (progress : Worker.Progress σ) : Prop where
  | rests :
      port.worker.inHand? = none →
      progress.worker = port.worker →
      progress.wire = port.wire →
      progress.answers = [] →
      WorkTurn line now port progress
  | stops :
      port.worker.inHand? = none →
      port.worker.stopping = true ∨ port.worker.closed = true ∨
        (∃ cause, port.phase = .aborting cause) →
      progress.worker = port.worker.ended →
      progress.wire = port.wire →
      progress.answers =
        port.worker.queue.map (Worker.refuse port.settings) →
      WorkTurn line now port progress
  | takes (command : Command) (rest : List Command) :
      port.worker.stage = .idle →
      port.worker.stopping = false →
      port.worker.queue = command :: rest →
      progress.worker =
        { port.worker with
          queue := rest
          stage := .busy command Exchange.start } →
      progress.wire = port.wire →
      progress.answers = [] →
      WorkTurn line now port progress
  | proceeds (command : Command) (phase later : Exchange.Phase) :
      port.worker.stage = .busy command phase →
      (∀ cause, port.phase ≠ .aborting cause) →
      (Exchange.step port.settings line now command.request phase
        port.wire).goesOn? = some (later, progress.wire) →
      progress.worker =
        { port.worker with stage := .busy command later } →
      progress.answers = [] →
      WorkTurn line now port progress
  | concludes (command : Command) (phase : Exchange.Phase)
      (outcome : Except Failure Bytes) (wire : Wire σ) :
      port.worker.stage = .busy command phase →
      (∀ cause, port.phase ≠ .aborting cause) →
      Exchange.step port.settings line now command.request phase
        port.wire = .done outcome wire →
      progress.worker = { port.worker with stage := .idle } →
      progress.wire =
        (if outcome.isOk then wire.clear else wire.clear.failed) →
      progress.answers =
        [{ number := command.number
           outcome := outcome }] →
      WorkTurn line now port progress
  | givesUp (command : Command) (phase : Exchange.Phase)
      (cause : SessionEnd) :
      port.worker.stage = .busy command phase →
      port.phase = .aborting cause →
      progress.worker = port.worker.ended →
      progress.wire = port.wire →
      progress.answers =
        (command :: port.worker.queue).map (Worker.refuse port.settings) →
      WorkTurn line now port progress

namespace Port

private theorem abort_turn (line : Line σ) (now : Nat) {port : Port σ}
    {cause : SessionEnd} (aborting : port.phase = .aborting cause) :
    WorkTurn line now port (port.worker.abort port.settings port.wire) := by
  cases stage : port.worker.stage with
  | idle =>
      refine .stops ?_ (Or.inr (Or.inr ⟨cause, aborting⟩)) rfl rfl ?_
      · simp [Worker.inHand?, stage]
      · simp [Worker.abort, stage]
  | busy command phase =>
      refine .givesUp command phase cause stage aborting rfl rfl ?_
      simp [Worker.abort, stage]
  | stopped =>
      refine .stops ?_ (Or.inr (Or.inr ⟨cause, aborting⟩)) rfl rfl ?_
      · simp [Worker.inHand?, stage]
      · simp [Worker.abort, stage]

private theorem step_turn (line : Line σ) (now : Nat) {port : Port σ}
    (ongoing : ∀ cause, port.phase ≠ .aborting cause) :
    WorkTurn line now port
      (port.worker.step port.settings line now port.wire) := by
  cases stage : port.worker.stage with
  | stopped =>
      have nothing : port.worker.inHand? = none := by
        simp [Worker.inHand?, stage]
      refine .rests nothing ?_ ?_ ?_ <;> simp [Worker.step, stage]
  | idle =>
      have nothing : port.worker.inHand? = none := by
        simp [Worker.inHand?, stage]
      cases stopping : port.worker.stopping with
      | true =>
          refine .stops nothing (Or.inl stopping) ?_ ?_ ?_ <;>
            simp [Worker.step, Worker.stop, Worker.ended, stage, stopping]
      | false =>
          cases queue : port.worker.queue with
          | cons command rest =>
              refine .takes command rest stage stopping queue ?_ ?_ ?_ <;>
                simp [Worker.step, stage, stopping, queue]
          | nil =>
              cases closed : port.worker.closed with
              | true =>
                  refine .stops nothing (Or.inr (Or.inl closed)) ?_ ?_ ?_ <;>
                    simp [Worker.step, Worker.stop, Worker.ended, stage, stopping,
                      queue, closed]
              | false =>
                  refine .rests nothing ?_ ?_ ?_ <;>
                    simp [Worker.step, stage, stopping, queue, closed]
  | busy command phase =>
      cases result : Exchange.step port.settings line now command.request
          phase port.wire with
      | next later wire =>
          refine .proceeds command phase later stage ongoing ?_ ?_ ?_ <;>
            simp [Worker.step, stage, result, Exchange.Step.goesOn?]
      | wait later wire wake =>
          refine .proceeds command phase later stage ongoing ?_ ?_ ?_ <;>
            simp [Worker.step, stage, result, Exchange.Step.goesOn?]
      | done outcome wire =>
          refine .concludes command phase outcome wire stage ongoing result
            ?_ ?_ ?_ <;>
            simp [Worker.step, Worker.answer, stage, result]

theorem workTurn (line : Line σ) (now : Nat) (port : Port σ) :
    WorkTurn line now port (port.workerProgress line now) := by
  unfold workerProgress
  split
  case h_1 cause aborting => exact abort_turn line now aborting
  case h_2 ongoing => exact step_turn line now ongoing

def run (line : Line σ) (actions : List (Nat × Action)) (port : Port σ) :
    Port σ :=
  actions.foldl (fun port entry => port.perform line entry.1 entry.2) port

def nextCommand (port : Port σ) (request : Bytes) : Command :=
  { number := port.commands + 1
    request := request }

/-- A call is queued for a worker that takes commands, or refused at once. -/
theorem submit_cases (port : Port σ) (request : Bytes) :
    (port.running = true ∧ port.connected = true ∧
      port.worker.accepts = true ∧
      port.submit request =
        ({ port with
            commands := port.commands + 1
            worker := port.worker.enqueue (port.nextCommand request) },
          .ok (port.commands + 1))) ∨
    port.submit request =
      ({ port with commands := port.commands + 1 },
        .error (.notRunning port.settings.name
          (.ofNat (port.commands + 1)))) := by
  unfold submit
  split
  case isTrue admitted =>
      simp only [Bool.and_eq_true] at admitted
      exact Or.inl ⟨admitted.1.1, admitted.1.2, admitted.2, rfl⟩
  case isFalse => exact Or.inr rfl

/-- The worker runs in sessions only, and leaves no command in its queue when
it stops. -/
structure Disciplined (port : Port σ) : Prop where
  stopped : port.phase.inSession = false → port.worker.stage = .stopped
  emptied : port.worker.stage = .stopped → port.worker.queue = []

namespace Disciplined

theorem fresh (settings : PortSettings) (reopenDelay : Nat) (state : σ) :
    Disciplined (Port.fresh settings reopenDelay state) :=
  { stopped := fun _ => rfl
    emptied := fun _ => rfl }

theorem outstanding {port : Port σ} (disciplined : port.Disciplined)
    (outside : port.phase.inSession = false) :
    port.worker.outstanding = [] := by
  have stopped := disciplined.stopped outside
  simp [Worker.outstanding, Worker.inHand?, stopped,
    disciplined.emptied stopped]

theorem inSession {port : Port σ} (disciplined : port.Disciplined)
    (going : port.worker.stage ≠ .stopped) :
    port.phase.inSession = true := by
  cases inside : port.phase.inSession with
  | true => rfl
  | false => exact (going (disciplined.stopped inside)).elim

theorem submit {port : Port σ} (disciplined : port.Disciplined)
    (request : Bytes) : (port.submit request).1.Disciplined := by
  rcases submit_cases port request with
    ⟨_, _, accepted, equality⟩ | equality
  · rw [equality]
    refine ⟨disciplined.stopped, ?_⟩
    intro stopped
    exact (Worker.accepts_not_stopped accepted stopped).elim
  · rw [equality]
    exact ⟨disciplined.stopped, disciplined.emptied⟩

theorem control {port : Port σ} (disciplined : port.Disciplined)
    (line : Line σ) (now : Nat) {action : Action}
    (isControl : action.isControl = true)
    (ongoing : port.beginsSession action = false) :
    (port.perform line now action).Disciplined := by
  obtain ⟨closed, stopping, equality, _, _⟩ :=
    worker_perform_of_control line now isControl ongoing
  constructor
  · intro outside
    rw [equality]
    by_cases going : port.worker.stage = .stopped
    · exact going
    have inside := disciplined.inSession going
    cases action <;>
      simp only [Action.isControl, Bool.false_eq_true] at isControl
    case cancel => simp [perform, inside] at outside
    case dispose => simp [perform, inside] at outside
    case raise event => simp [perform, inside] at outside
    case loseListener => simp [perform, inside] at outside
    case answerOpen fault =>
        simp [perform, inSession_answerOpen, inside] at outside
    case supervise =>
        simp [perform, inSession_supervise now inside going] at outside
  · intro stopped
    rw [equality] at stopped ⊢
    exact disciplined.emptied stopped

theorem begin {port : Port σ} (now : Nat)
    (opened : port.phase = .opened none) :
    (port.supervise now).Disciplined := by
  have inside : (port.supervise now).phase.inSession = true := by
    simp only [supervise, opened]
    exact inSession_resume_of_success port now
  have going : (port.supervise now).worker.stage ≠ .stopped := by
    rcases worker_supervise_of_opened now opened with equality | equality <;>
      simp [equality, Worker.fresh]
  exact
    { stopped := fun outside => by simp [inside] at outside
      emptied := fun stopped => (going stopped).elim }

theorem work {port : Port σ} (disciplined : port.Disciplined)
    (line : Line σ) (now : Nat) : (port.work line now).Disciplined := by
  have phase : (port.work line now).phase = port.phase := rfl
  have worker : (port.work line now).worker =
      (port.workerProgress line now).worker := rfl
  constructor
  · intro outside
    rw [phase] at outside
    have stopped := disciplined.stopped outside
    rw [worker]
    cases port.workTurn line now with
    | rests _ same => rw [same, stopped]
    | stops _ _ same => rw [same, Worker.ended_stage]
    | takes _ _ idle => simp [stopped] at idle
    | proceeds _ _ _ busy => simp [stopped] at busy
    | concludes _ _ _ _ busy => simp [stopped] at busy
    | givesUp _ _ _ _ _ same => rw [same, Worker.ended_stage]
  · intro stopped
    rw [worker] at stopped ⊢
    cases port.workTurn line now with
    | rests _ same =>
        rw [same] at stopped ⊢
        exact disciplined.emptied stopped
    | stops _ _ same => rw [same, Worker.ended_queue]
    | takes _ _ _ _ _ same => simp [same] at stopped
    | proceeds _ _ _ _ _ _ same => simp [same] at stopped
    | concludes _ _ _ _ _ _ _ same => simp [same] at stopped
    | givesUp _ _ _ _ _ same => rw [same, Worker.ended_queue]

theorem perform {port : Port σ} (disciplined : port.Disciplined)
    (line : Line σ) (now : Nat) (action : Action) :
    (port.perform line now action).Disciplined := by
  cases action using Port.Action.byPart with
  | control action control =>
      cases begins : port.beginsSession action with
      | false => exact disciplined.control line now control begins
      | true =>
          obtain ⟨rfl, opened⟩ := (beginsSession_iff port action).mp begins
          exact Disciplined.begin now opened
  | submit request => exact disciplined.submit request
  | abandon number =>
      exact ⟨disciplined.stopped, disciplined.emptied⟩
  | work => exact disciplined.work line now

end Disciplined

end Port

end MeterLine
