import MeterLine.Port

/-!
# What the supervisor leaves alone

The supervisor and the signals never touch the count of commands, the answers
or the line itself.  The worker changes by them only when a session begins or
is told to end, and a session is left only when its worker has stopped.
-/

namespace MeterLine

namespace Wire

@[simp] theorem hear_line (wire : Wire σ) (event : PortEvent) :
    (wire.hear event).line = wire.line := by
  unfold hear
  split
  · cases event <;> rfl
  · rfl

@[simp] theorem foldl_hear_line (events : List PortEvent) (wire : Wire σ) :
    (events.foldl hear wire).line = wire.line := by
  induction events generalizing wire with
  | nil => rfl
  | cons event events induction =>
      rw [List.foldl_cons, induction, hear_line]

@[simp] theorem take_line (wire : Wire σ) (answer : LineAnswer σ α) :
    (wire.take answer).line = answer.line := by
  simp [take]

@[simp] theorem sent_line (wire : Wire σ) (count : Nat) :
    (wire.sent count).line = wire.line := rfl

@[simp] theorem received_line (wire : Wire σ) (count : Nat) :
    (wire.received count).line = wire.line := rfl

@[simp] theorem expired_line (wire : Wire σ) :
    wire.expired.line = wire.line := rfl

@[simp] theorem clear_line (wire : Wire σ) :
    wire.clear.line = wire.line := rfl

end Wire

namespace Worker

/-- The command in hand and where its exchange stands. -/
def inHand? (worker : Worker) : Option (Command × Exchange.Phase) :=
  match worker.stage with
  | .busy command phase => some (command, phase)
  | _ => none

/-- Commands that were taken in and not answered yet, first one first. -/
def outstanding (worker : Worker) : List Command :=
  (worker.inHand?.map Prod.fst).toList ++ worker.queue

def halted (worker : Worker) : Worker :=
  { worker with
    closed := true
    stopping := true }

/-- A worker that has stopped and left nothing in its queue. -/
def ended (worker : Worker) : Worker :=
  { worker with
    queue := []
    closed := true
    stage := .stopped }

@[simp] theorem halted_stage (worker : Worker) :
    worker.halted.stage = worker.stage := rfl

@[simp] theorem halted_queue (worker : Worker) :
    worker.halted.queue = worker.queue := rfl

@[simp] theorem ended_stage (worker : Worker) :
    worker.ended.stage = .stopped := rfl

@[simp] theorem ended_queue (worker : Worker) :
    worker.ended.queue = [] := rfl

@[simp] theorem ended_outstanding (worker : Worker) :
    worker.ended.outstanding = [] := rfl

theorem outstanding_of_none {worker : Worker}
    (nothing : worker.inHand? = none) : worker.outstanding = worker.queue := by
  simp [outstanding, nothing]

theorem inHand?_of_busy {worker : Worker} {command : Command}
    {phase : Exchange.Phase} (busy : worker.stage = .busy command phase) :
    worker.inHand? = some (command, phase) := by
  simp [inHand?, busy]

theorem outstanding_of_busy {worker : Worker} {command : Command}
    {phase : Exchange.Phase} (busy : worker.stage = .busy command phase) :
    worker.outstanding = command :: worker.queue := by
  simp [outstanding, inHand?_of_busy busy]

theorem outstanding_enqueue (worker : Worker) (command : Command) :
    (worker.enqueue command).outstanding =
      worker.outstanding ++ [command] := by
  simp [outstanding, enqueue, inHand?]

theorem accepts_not_stopped {worker : Worker}
    (accepted : worker.accepts = true) : worker.stage ≠ .stopped := by
  intro stopped
  simp [accepts, stopped] at accepted

end Worker

namespace Port

def Phase.inSession : Phase → Bool
  | .serving => true
  | .closing _ _ => true
  | .aborting _ => true
  | _ => false

/-- What no step of the supervisor changes. -/
structure Books (σ : Type) where
  settings : PortSettings
  commands : Nat
  answers : List CommandAnswer
  abandoned : List Nat
  awaited : Bool
  line : σ

def books (port : Port σ) : Books σ :=
  { settings := port.settings
    commands := port.commands
    answers := port.answers
    abandoned := port.abandoned
    awaited := port.awaited
    line := port.wire.line }

@[simp] theorem books_note (port : Port σ) (now : Nat) (message : String) :
    (port.note now message).books = port.books := rfl

/-- What comes of a port that is about to open its line: a signal ends it, or
another attempt begins. -/
inductive Begins (port : Port σ) : Port σ → Prop where
  | finishes (state : PortState) :
      (state = .disposed ∧ port.disposeSignal = true) ∨
        (state = .closed ∧ port.cancelSignal = true) →
      Begins port (port.finish state)
  | opens :
      port.cancelSignal = false → port.disposeSignal = false →
      Begins port
        { port with
          state := .opening
          attempts := port.attempts + 1
          phase := .opening }

/-- What comes of a port that had trouble. -/
inductive Pauses (port : Port σ) (now : Nat) : Port σ → Prop where
  | begins (next : Port σ) : port.Begins next → Pauses port now next
  | waits :
      port.cancelSignal = false → port.disposeSignal = false →
      0 < port.reopenDelay →
      Pauses port now
        { port with
          state := .faulted
          phase := .pausing (now + port.reopenDelay) }

theorem begin_begins (port : Port σ) : port.Begins port.begin := by
  unfold begin
  split
  case isTrue disposed => exact .finishes _ (Or.inl ⟨rfl, disposed⟩)
  case isFalse used =>
      split
      case isTrue cancelled => exact .finishes _ (Or.inr ⟨rfl, cancelled⟩)
      case isFalse going =>
          exact .opens (by simpa using going) (by simpa using used)

theorem pause_pauses (port : Port σ) (now : Nat) :
    port.Pauses now (port.pause now) := by
  unfold pause
  simp only []
  split
  case isTrue cancelled =>
      exact .begins _ (.finishes .closed (Or.inr ⟨rfl, cancelled⟩))
  case isFalse going =>
      split
      case isTrue disposed =>
          exact .begins _ (.finishes .disposed (Or.inl ⟨rfl, disposed⟩))
      case isFalse used =>
          split
          case isTrue =>
              have begins := begin_begins { port with state := .faulted }
              generalize begin _ = next at begins
              cases begins with
              | finishes state signalled =>
                  exact .begins _ (.finishes state signalled)
              | opens going used => exact .begins _ (.opens going used)
          case isFalse delayed =>
              exact .waits (by simpa using going) (by simpa using used)
                (Nat.pos_of_ne_zero delayed)

section

variable {port next : Port σ} {now : Nat}

theorem Begins.books (begins : port.Begins next) : next.books = port.books := by
  cases begins <;> rfl

theorem Begins.worker (begins : port.Begins next) :
    next.worker = port.worker := by
  cases begins <;> rfl

theorem Begins.wire (begins : port.Begins next) : next.wire = port.wire := by
  cases begins <;> rfl

theorem Pauses.books (pauses : port.Pauses now next) :
    next.books = port.books := by
  cases pauses with
  | begins _ begins => exact begins.books
  | waits => rfl

theorem Pauses.worker (pauses : port.Pauses now next) :
    next.worker = port.worker := by
  cases pauses with
  | begins _ begins => exact begins.worker
  | waits => rfl

theorem Pauses.wire (pauses : port.Pauses now next) :
    next.wire = port.wire := by
  cases pauses with
  | begins _ begins => exact begins.wire
  | waits => rfl

@[simp] theorem books_pause (port : Port σ) (now : Nat) :
    (port.pause now).books = port.books :=
  (port.pause_pauses now).books

@[simp] theorem worker_pause (port : Port σ) (now : Nat) :
    (port.pause now).worker = port.worker :=
  (port.pause_pauses now).worker

@[simp] theorem wire_pause (port : Port σ) (now : Nat) :
    (port.pause now).wire = port.wire :=
  (port.pause_pauses now).wire

end

@[simp] theorem books_openFailed (port : Port σ) (now : Nat)
    (failure : Failure) : (port.openFailed now failure).books = port.books := by
  rw [openFailed, books_pause, books_note]

@[simp] theorem worker_openFailed (port : Port σ) (now : Nat)
    (failure : Failure) :
    (port.openFailed now failure).worker = port.worker := by
  rw [openFailed, worker_pause]
  rfl

@[simp] theorem books_tearDown (port : Port σ) (now : Nat)
    (cause : SessionEnd) : (port.tearDown now cause).books = port.books := by
  cases cause with
  | cancelled => rfl
  | disposed => rfl
  | hardwareFault =>
      rw [tearDown, books_pause, books_note]
      rfl

@[simp] theorem worker_tearDown (port : Port σ) (now : Nat)
    (cause : SessionEnd) : (port.tearDown now cause).worker = port.worker := by
  cases cause with
  | cancelled => rfl
  | disposed => rfl
  | hardwareFault =>
      rw [tearDown, worker_pause]
      rfl

@[simp] theorem books_awaitWorker (port : Port σ) (now : Nat)
    (cause : SessionEnd) (deadline : Nat) :
    (port.awaitWorker now cause deadline).books = port.books := by
  unfold awaitWorker
  split
  · exact books_tearDown port now cause
  · split <;> rfl

@[simp] theorem worker_awaitWorker (port : Port σ) (now : Nat)
    (cause : SessionEnd) (deadline : Nat) :
    (port.awaitWorker now cause deadline).worker = port.worker := by
  unfold awaitWorker
  split
  · exact worker_tearDown port now cause
  · split <;> rfl

/-- A session is left only when its worker has stopped. -/
theorem inSession_awaitWorker {port : Port σ} (now : Nat)
    (cause : SessionEnd) (deadline : Nat)
    (going : port.worker.stage ≠ .stopped) :
    (port.awaitWorker now cause deadline).phase.inSession = true := by
  have notStopped : port.worker.isStopped = false := by
    simpa [Worker.isStopped] using going
  unfold awaitWorker
  rw [notStopped]
  simp only [Bool.false_eq_true, if_false]
  split <;> rfl

def cut (port : Port σ) : Port σ :=
  { port.disconnect.setRunning false with worker := port.worker.halted }

theorem endSession_eq (port : Port σ) (now : Nat) (cause : SessionEnd) :
    port.endSession now cause =
      port.cut.awaitWorker now cause (now + grace port.settings) := rfl

@[simp] theorem books_endSession (port : Port σ) (now : Nat)
    (cause : SessionEnd) : (port.endSession now cause).books = port.books := by
  rw [endSession_eq, books_awaitWorker]
  rfl

@[simp] theorem worker_endSession (port : Port σ) (now : Nat)
    (cause : SessionEnd) :
    (port.endSession now cause).worker = port.worker.halted := by
  rw [endSession_eq, worker_awaitWorker]
  rfl

/-- The port that a session begins with, before the signals are looked at. -/
def installed (port : Port σ) : Port σ :=
  { ({ port with
        wire :=
          { port.wire with
            ready := false
            listening := true
            faults := [] }
        worker := Worker.fresh
        connected := true
        lastError := none } : Port σ).setRunning true with
    state := .running }

theorem serve_eq (port : Port σ) (now : Nat) :
    port.serve now = port.installed.checkSession now := rfl

@[simp] theorem books_checkSession (port : Port σ) (now : Nat) :
    (port.checkSession now).books = port.books := by
  unfold checkSession
  split
  · exact books_endSession port now _
  · rfl

theorem worker_checkSession (port : Port σ) (now : Nat) :
    (port.checkSession now).worker = port.worker ∨
      (port.checkSession now).worker = port.worker.halted := by
  unfold checkSession
  split
  · exact Or.inr (worker_endSession port now _)
  · exact Or.inl rfl

theorem inSession_checkSession {port : Port σ} (now : Nat)
    (going : port.worker.stage ≠ .stopped) :
    (port.checkSession now).phase.inSession = true := by
  unfold checkSession
  split
  · exact inSession_awaitWorker now _ _ going
  · rfl

@[simp] theorem books_resume (port : Port σ) (now : Nat)
    (fault : OpenFault) : (port.resume now fault).books = port.books := by
  unfold resume
  split
  · exact books_openFailed port now _
  · exact books_openFailed port now _
  · exact (books_openFailed _ now _).trans rfl
  · exact (books_openFailed _ now _).trans rfl
  · rw [serve_eq, books_checkSession]
    rfl

theorem worker_resume_of_fault (port : Port σ) (now : Nat)
    (trouble : OpenStage × Failure) :
    (port.resume now (some trouble)).worker = port.worker := by
  obtain ⟨stage, failure⟩ := trouble
  cases stage
  · exact worker_openFailed port now failure
  · exact worker_openFailed port now failure
  · exact (worker_openFailed _ now failure).trans rfl
  · exact (worker_openFailed _ now failure).trans rfl

theorem worker_resume_of_success (port : Port σ) (now : Nat) :
    (port.resume now none).worker = Worker.fresh ∨
      (port.resume now none).worker = Worker.fresh.halted :=
  worker_checkSession ((port.record .streamed).record .listened).installed now

theorem inSession_resume_of_success (port : Port σ) (now : Nat) :
    (port.resume now none).phase.inSession = true :=
  @inSession_checkSession _
    ((port.record .streamed).record .listened).installed now
    (by simp [installed, setRunning, record, Worker.fresh])

/-- A session begins when the supervisor goes on after a successful attempt to
open the line. -/
def beginsSession (port : Port σ) (action : Action) : Bool :=
  match action with
  | .supervise => port.phase == .opened none
  | _ => false

theorem beginsSession_iff (port : Port σ) (action : Action) :
    port.beginsSession action = true ↔
      action = .supervise ∧ port.phase = .opened none := by
  cases action <;> simp [beginsSession]

inductive Waits (port : Port σ) (now : Nat) : Prop where
  | opening : port.phase = .opening → Waits port now
  | serving : port.phase = .serving → port.sessionEnd? = none → Waits port now
  | aborting (cause : SessionEnd) :
      port.phase = .aborting cause → port.worker.isStopped = false →
      Waits port now
  | pausing (deadline : Nat) :
      port.phase = .pausing deadline → port.cancelSignal = false →
      port.disposeSignal = false → now < deadline → Waits port now
  | finished : port.phase = .finished → Waits port now

/-- What a turn of the supervisor comes to, by the phase of its port. -/
inductive Supervises (port : Port σ) (now : Nat) : Port σ → Prop where
  | waits : port.Waits now → Supervises port now port
  | begins (next : Port σ) :
      (port.phase = .starting ∨ ∃ deadline, port.phase = .pausing deadline ∧
        (port.cancelSignal = true ∨ port.disposeSignal = true ∨
          deadline ≤ now)) →
      port.Begins next → Supervises port now next
  | resumes (fault : OpenFault) :
      port.phase = .opened fault → Supervises port now (port.resume now fault)
  | ends (cause : SessionEnd) :
      port.phase = .serving → port.sessionEnd? = some cause →
      Supervises port now (port.endSession now cause)
  | awaits (cause : SessionEnd) (deadline : Nat) :
      port.phase = .closing cause deadline →
      Supervises port now (port.awaitWorker now cause deadline)
  | tearsDown (cause : SessionEnd) :
      port.phase = .aborting cause → port.worker.isStopped = true →
      Supervises port now (port.tearDown now cause)

theorem supervise_supervises (port : Port σ) (now : Nat) :
    port.Supervises now (port.supervise now) := by
  unfold supervise
  split
  case h_1 starting => exact .begins _ (Or.inl starting) port.begin_begins
  case h_2 opening => exact .waits (.opening opening)
  case h_3 fault opened => exact .resumes fault opened
  case h_4 serving =>
      split
      case h_1 cause ends => exact .ends cause serving ends
      case h_2 goesOn => exact .waits (.serving serving goesOn)
  case h_5 cause deadline closing => exact .awaits cause deadline closing
  case h_6 cause aborting =>
      split
      case isTrue stopped => exact .tearsDown cause aborting stopped
      case isFalse going =>
          exact .waits (.aborting cause aborting (by simpa using going))
  case h_7 deadline pausing =>
      split
      case isTrue cancelled =>
          exact .begins _ (Or.inr ⟨deadline, pausing, Or.inl cancelled⟩)
            (.finishes .closed (Or.inr ⟨rfl, cancelled⟩))
      case isFalse going =>
          split
          case isTrue disposed =>
              exact .begins _
                (Or.inr ⟨deadline, pausing, Or.inr (Or.inl disposed)⟩)
                (.finishes .disposed (Or.inl ⟨rfl, disposed⟩))
          case isFalse used =>
              split
              case isTrue due =>
                  exact .begins _
                    (Or.inr ⟨deadline, pausing, Or.inr (Or.inr due)⟩)
                    port.begin_begins
              case isFalse early =>
                  exact .waits (.pausing deadline pausing
                    (by simpa using going) (by simpa using used)
                    (Nat.lt_of_not_le early))
  case h_8 finished => exact .waits (.finished finished)

@[simp] theorem books_supervise (port : Port σ) (now : Nat) :
    (port.supervise now).books = port.books := by
  have supervises := port.supervise_supervises now
  generalize port.supervise now = next at supervises
  cases supervises with
  | waits => rfl
  | begins _ _ begins => exact begins.books
  | resumes fault => exact books_resume port now fault
  | ends cause => exact books_endSession port now cause
  | awaits cause deadline => exact books_awaitWorker port now cause deadline
  | tearsDown cause => exact books_tearDown port now cause

/-- Unless a session begins, the supervisor at most tells the worker to
stop. -/
theorem worker_supervise {port : Port σ} (now : Nat)
    (ongoing : port.phase ≠ .opened none) :
    (port.supervise now).worker = port.worker ∨
      (port.supervise now).worker = port.worker.halted := by
  have supervises := port.supervise_supervises now
  generalize port.supervise now = next at supervises
  cases supervises with
  | waits => exact Or.inl rfl
  | begins _ _ begins => exact Or.inl begins.worker
  | resumes fault opened =>
      cases fault with
      | none => exact (ongoing opened).elim
      | some trouble =>
          exact Or.inl (worker_resume_of_fault port now trouble)
  | ends cause => exact Or.inr (worker_endSession port now cause)
  | awaits cause deadline =>
      exact Or.inl (worker_awaitWorker port now cause deadline)
  | tearsDown cause => exact Or.inl (worker_tearDown port now cause)

theorem worker_supervise_of_opened {port : Port σ} (now : Nat)
    (opened : port.phase = .opened none) :
    (port.supervise now).worker = Worker.fresh ∨
      (port.supervise now).worker = Worker.fresh.halted := by
  simp only [supervise, opened]
  exact worker_resume_of_success port now

/-- The supervisor leaves a session only when the worker has stopped. -/
theorem inSession_supervise {port : Port σ} (now : Nat)
    (inside : port.phase.inSession = true)
    (going : port.worker.stage ≠ .stopped) :
    (port.supervise now).phase.inSession = true := by
  have supervises := port.supervise_supervises now
  generalize port.supervise now = next at supervises
  cases supervises with
  | waits => exact inside
  | begins _ idle =>
      rcases idle with starting | ⟨_, pausing, _⟩ <;>
        simp [Phase.inSession, *] at inside
  | resumes fault opened => simp [opened, Phase.inSession] at inside
  | ends cause =>
      have goingOn : port.cut.worker.stage ≠ .stopped := going
      exact inSession_awaitWorker now cause _ goingOn
  | awaits cause deadline =>
      exact inSession_awaitWorker now cause deadline going
  | tearsDown cause _ stopped =>
      simp [Worker.isStopped, going] at stopped

/-- Actions other than calls, their ends and the turns of the worker. -/
def Action.isControl : Action → Bool
  | .submit _ => false
  | .abandon _ => false
  | .work => false
  | _ => true

/-- Every action is a control, a call, the going away of a caller, or a turn of
the worker. -/
@[elab_as_elim]
theorem Action.byPart {motive : Action → Prop}
    (control : ∀ action, action.isControl = true → motive action)
    (submit : ∀ request, motive (.submit request))
    (abandon : ∀ number, motive (.abandon number))
    (work : motive .work) (action : Action) : motive action := by
  cases action
  case submit request => exact submit request
  case abandon number => exact abandon number
  case work => exact work
  all_goals exact control _ rfl

@[simp] theorem books_dispose (port : Port σ) :
    port.dispose.books = port.books := by
  unfold dispose
  split <;> rfl

@[simp] theorem phase_dispose (port : Port σ) :
    port.dispose.phase = port.phase := by
  unfold dispose
  split <;> rfl

theorem worker_dispose (port : Port σ) :
    port.dispose.worker = port.worker ∨
      port.dispose.worker = { port.worker with closed := true } := by
  unfold dispose
  split
  · exact Or.inl rfl
  · exact Or.inr rfl

@[simp] theorem books_answerOpen (port : Port σ) (fault : OpenFault) :
    (port.answerOpen fault).books = port.books := by
  unfold answerOpen
  split
  · split <;> rfl
  · rfl

@[simp] theorem worker_answerOpen (port : Port σ) (fault : OpenFault) :
    (port.answerOpen fault).worker = port.worker := by
  unfold answerOpen
  split
  · split <;> rfl
  · rfl

theorem inSession_answerOpen (port : Port σ) (fault : OpenFault) :
    (port.answerOpen fault).phase.inSession = port.phase.inSession := by
  unfold answerOpen
  split
  case isTrue opening =>
      rw [opening]
      rfl
  case isFalse => rfl

theorem books_perform_of_control (line : Line σ) (now : Nat)
    {action : Action} (port : Port σ) (control : action.isControl = true) :
    (port.perform line now action).books = port.books := by
  cases action <;> simp only [Action.isControl, Bool.false_eq_true] at control
  case cancel => rfl
  case dispose => exact books_dispose port
  case raise event => simp [perform, books]
  case loseListener => rfl
  case answerOpen fault => exact books_answerOpen port fault
  case supervise => exact books_supervise port now

theorem worker_perform_of_control (line : Line σ) (now : Nat)
    {action : Action} {port : Port σ} (control : action.isControl = true)
    (ongoing : port.beginsSession action = false) :
    ∃ closed stopping,
      (port.perform line now action).worker =
        { port.worker with
          closed := closed
          stopping := stopping } ∧
      (port.worker.closed = true → closed = true) ∧
      (port.worker.stopping = true → stopping = true) := by
  have same : ∃ closed stopping,
      port.worker =
        { port.worker with
          closed := closed
          stopping := stopping } ∧
      (port.worker.closed = true → closed = true) ∧
      (port.worker.stopping = true → stopping = true) :=
    ⟨port.worker.closed, port.worker.stopping, rfl, id, id⟩
  cases action <;> simp only [Action.isControl, Bool.false_eq_true] at control
  case cancel => exact same
  case dispose =>
      rcases worker_dispose port with equality | equality
      · rw [perform, equality]
        exact same
      · exact ⟨true, port.worker.stopping, equality, fun _ => rfl, id⟩
  case raise event => exact same
  case loseListener => exact same
  case answerOpen fault =>
      rw [perform, worker_answerOpen]
      exact same
  case supervise =>
      have notOpened : port.phase ≠ .opened none := by
        intro opened
        simp [beginsSession, opened] at ongoing
      rcases worker_supervise now notOpened with equality | equality
      · rw [perform, equality]
        exact same
      · exact ⟨true, true, equality, fun _ => rfl, fun _ => rfl⟩

end Port

end MeterLine
