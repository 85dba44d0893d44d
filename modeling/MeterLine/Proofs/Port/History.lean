import MeterLine.Proofs.Port.Turn

/-!
# Histories of a port

A port does not remember the commands that it has served.  A history follows a
port through a run and notes every call, those that were turned away at once
and, session by session, which commands were queued, which of them were taken
and what the line accepted of each request.  It only looks on: the port inside
a history is the port of the run, and the answers to its commands are found
there.

A line may answer from a list prepared beforehand, so that statements about all
lines are statements about every behaviour of a port, in one session or in any
number of them.
-/

namespace MeterLine

/-- The octets that a line accepts in one step of an exchange. -/
def Exchange.accepted (line : Line σ) (now : Nat) (phase : Phase)
    (wire : Wire σ) : Bytes :=
  match phase with
  | .writing rest _ =>
      match (line.write now rest wire.line).value with
      | .ready (.ok count) => rest.take count
      | _ => []
  | _ => []

def Exchange.Phase.isWritten : Exchange.Phase → Bool
  | .draining => false
  | .discarding _ _ => false
  | .writing _ _ => false
  | _ => true

/-- A command that a worker took, and how far it got. -/
structure Handling (σ : Type) where
  command : Command
  /-- Where the exchange stands, or where it stood last. -/
  phase : Exchange.Phase
  accepted : Bytes
  /-- The line at the moment when its input was found empty, if the request
  was written because of that. -/
  cleared : Option σ
  outcome : Option (Except Failure Bytes)

namespace Handling

def begin (command : Command) : Handling σ :=
  { command := command
    phase := Exchange.start
    accepted := []
    cleared := none
    outcome := none }

def accept (handling : Handling σ) (octets : Bytes) : Handling σ :=
  { handling with accepted := handling.accepted ++ octets }

/-- The exchange goes on in another phase, and leaves the line in a state.  It
goes from draining to writing only when nothing was left to drain. -/
def proceed (handling : Handling σ) (phase : Exchange.Phase) (state : σ) :
    Handling σ :=
  { handling with
    phase := phase
    cleared :=
      match handling.phase, phase with
      | .draining, .writing _ _ => some state
      | _, _ => handling.cleared }

def finish (handling : Handling σ) (outcome : Option (Except Failure Bytes)) :
    Handling σ :=
  { handling with outcome := outcome }

end Handling

/-- What happened in one session. -/
structure Session (σ : Type) where
  queued : List Command
  finished : List (Handling σ)
  current : Option (Handling σ)
  accepted : Bytes

namespace Session

def empty : Session σ :=
  { queued := []
    finished := []
    current := none
    accepted := [] }

def handled (session : Session σ) : List (Handling σ) :=
  session.finished ++ session.current.toList

def enqueue (session : Session σ) (command : Command) : Session σ :=
  { session with queued := session.queued ++ [command] }

def take (session : Session σ) (command : Command) : Session σ :=
  { session with current := some (Handling.begin command) }

def accept (session : Session σ) (octets : Bytes) : Session σ :=
  { session with
    current := session.current.map fun handling => handling.accept octets
    accepted := session.accepted ++ octets }

def proceed (session : Session σ) (phase : Exchange.Phase) (state : σ) :
    Session σ :=
  { session with
    current := session.current.map fun handling =>
      handling.proceed phase state }

def putDown (session : Session σ) (outcome : Option (Except Failure Bytes)) :
    Session σ :=
  { session with
    finished := session.finished ++
      (session.current.map fun handling => handling.finish outcome).toList
    current := none }

def follow (session : Session σ) : Exchange.Step σ → Session σ
  | .next phase wire => session.proceed phase wire.line
  | .wait phase wire _ => session.proceed phase wire.line
  | .done outcome _ => session.putDown (some outcome)

def work (line : Line σ) (now : Nat) (port : Port σ) (session : Session σ) :
    Session σ :=
  match port.worker.stage, port.phase with
  | .busy _ _, .aborting _ => session.putDown none
  | .busy command phase, _ =>
      (session.accept (Exchange.accepted line now phase port.wire)).follow
        (Exchange.step port.settings line now command.request phase port.wire)
  | _, _ =>
      match (port.workerProgress line now).worker.stage with
      | .busy command _ => session.take command
      | _ => session

def observe (line : Line σ) (now : Nat) (action : Port.Action)
    (port : Port σ) (session : Session σ) : Session σ :=
  match action with
  | .submit request =>
      match (port.submit request).2 with
      | .ok number =>
          session.enqueue
            { number := number
              request := request }
      | .error _ => session
  | .work => session.work line now port
  | _ => session

end Session

namespace Port

/-- The request of an action that is a call. -/
def Action.request? : Action → Option Bytes
  | .submit request => some request
  | _ => none

def refusal? (action : Action) (port : Port σ) : Option CommandAnswer :=
  match action with
  | .submit request =>
      match (port.submit request).2 with
      | .ok _ => none
      | .error failure =>
          some
            { number := port.commands + 1
              outcome := .error failure }
  | _ => none

/-- The answers that an action hands to callers that still wait. -/
def deliveries (line : Line σ) (now : Nat) (action : Action)
    (port : Port σ) : List CommandAnswer :=
  match action with
  | .work =>
      (port.workerProgress line now).answers.filter fun answer =>
        !port.abandoned.contains answer.number
  | _ => []

/-- The answer that tells a caller that the port does not run. -/
def Refuses (port : Port σ) (answer : CommandAnswer) : Prop :=
  answer.outcome =
    .error (.notRunning port.settings.name (.ofNat answer.number))

theorem answers_deliver (port : Port σ) (answers : List CommandAnswer) :
    (port.deliver answers).answers =
      (answers.filter fun answer =>
        !port.abandoned.contains answer.number).reverse ++ port.answers := rfl

/-- Callers find at a port what was handed to them, and nothing else. -/
theorem answers_perform (line : Line σ) (now : Nat) (action : Action)
    (port : Port σ) :
    (port.perform line now action).answers =
      (port.deliveries line now action).reverse ++ port.answers := by
  cases action using Port.Action.byPart with
  | control action control =>
      have nothing : port.deliveries line now action = [] := by
        cases action <;> simp_all [Action.isControl, deliveries]
      rw [nothing]
      exact congrArg Books.answers
        (books_perform_of_control line now port control)
  | submit request =>
      rcases submit_cases port request with
        ⟨_, _, _, equality⟩ | equality <;>
        simp [perform, equality, deliveries]
  | abandon number => rfl
  | work => exact answers_deliver _ _

theorem refusal?_of_control {action : Action} (port : Port σ)
    (control : action.isControl = true) : port.refusal? action = none := by
  cases action <;> simp_all [Action.isControl, refusal?]

theorem request?_of_control {action : Action}
    (control : action.isControl = true) : action.request? = none := by
  cases action <;> simp_all [Action.isControl, Action.request?]

theorem settings_perform (line : Line σ) (now : Nat) (action : Action)
    (port : Port σ) :
    (port.perform line now action).settings = port.settings := by
  cases action using Port.Action.byPart with
  | control action control =>
      exact congrArg Books.settings
        (books_perform_of_control line now port control)
  | submit request =>
      rcases submit_cases port request with
        ⟨_, _, _, equality⟩ | equality <;>
        simp [perform, equality]
  | abandon number => rfl
  | work => rfl

theorem settings_run (line : Line σ) (actions : List (Nat × Action))
    (port : Port σ) : (port.run line actions).settings = port.settings := by
  induction actions generalizing port with
  | nil => rfl
  | cons entry actions induction =>
      exact (induction _).trans (settings_perform line entry.1 entry.2 port)

theorem abandoned_perform (line : Line σ) (now : Nat) (action : Action)
    (port : Port σ) :
    (port.perform line now action).abandoned = port.abandoned ∨
      ∃ number, action = .abandon number ∧
        (port.perform line now action).abandoned =
          number :: port.abandoned := by
  cases action using Port.Action.byPart with
  | control action control =>
      exact Or.inl (congrArg Books.abandoned
        (books_perform_of_control line now port control))
  | submit request =>
      rcases submit_cases port request with
        ⟨_, _, _, equality⟩ | equality <;>
        simp [perform, equality]
  | abandon number => exact Or.inr ⟨number, rfl, rfl⟩
  | work => exact Or.inl rfl

theorem abandoned_run (line : Line σ) {actions : List (Nat × Action)}
    {port : Port σ} {number : Nat}
    (left : number ∈ (port.run line actions).abandoned) :
    number ∈ port.abandoned ∨
      ∃ now, (now, Action.abandon number) ∈ actions := by
  induction actions generalizing port with
  | nil => exact Or.inl left
  | cons entry actions induction =>
      obtain ⟨now, action⟩ := entry
      rcases induction left with before | ⟨later, member⟩
      · rcases abandoned_perform line now action port with
          same | ⟨other, rfl, more⟩
        · rw [same] at before
          exact Or.inl before
        · rw [more] at before
          rcases List.mem_cons.mp before with rfl | old
          · exact Or.inr ⟨now, List.mem_cons_self⟩
          · exact Or.inl old
      · exact Or.inr ⟨later, List.mem_cons_of_mem _ member⟩

end Port

/-- A port and what has happened to it. -/
structure History (σ : Type) where
  port : Port σ
  calls : List Bytes
  /-- The answers of calls that were turned away at once, first one first. -/
  refused : List CommandAnswer
  earlier : List (Session σ)
  session : Session σ

namespace History

def ofPort (port : Port σ) : History σ :=
  { port := port
    calls := []
    refused := []
    earlier := []
    session := Session.empty }

def fresh (settings : PortSettings) (reopenDelay : Nat) (state : σ) :
    History σ :=
  ofPort (Port.fresh settings reopenDelay state)

def perform (line : Line σ) (now : Nat) (action : Port.Action)
    (history : History σ) : History σ :=
  let begins := history.port.beginsSession action
  { port := history.port.perform line now action
    calls := history.calls ++ action.request?.toList
    refused := history.refused ++ (history.port.refusal? action).toList
    earlier :=
      if begins then history.session :: history.earlier else history.earlier
    session :=
      if begins then Session.empty
      else history.session.observe line now action history.port }

def run (line : Line σ) (actions : List (Nat × Port.Action))
    (history : History σ) : History σ :=
  actions.foldl (fun history entry => history.perform line entry.1 entry.2)
    history

/-- The answers of all calls: of those that were turned away, and those that
are found at the port. -/
def answered (history : History σ) : List CommandAnswer :=
  history.refused ++ history.port.answers

def sessions (history : History σ) : List (Session σ) :=
  history.session :: history.earlier

/-- The sessions whose line was given back. -/
def ended (history : History σ) : List (Session σ) :=
  if history.port.phase.inSession then history.earlier else history.sessions

theorem run_port (line : Line σ) (actions : List (Nat × Port.Action))
    (history : History σ) :
    (history.run line actions).port = history.port.run line actions := by
  induction actions generalizing history with
  | nil => rfl
  | cons entry actions induction =>
      exact induction (history.perform line entry.1 entry.2)

theorem run_calls (line : Line σ) (actions : List (Nat × Port.Action))
    (history : History σ) :
    (history.run line actions).calls =
      history.calls ++ actions.filterMap fun entry => entry.2.request? := by
  induction actions generalizing history with
  | nil => simp [run]
  | cons entry actions induction =>
      have later := induction (history.perform line entry.1 entry.2)
      rw [run, List.foldl_cons, ← run, later]
      cases request : entry.2.request? <;>
        simp [perform, request]

/-- What holds at first and is kept by every action holds after a run. -/
theorem run_induction {motive : History σ → Prop} (line : Line σ)
    (keeps : ∀ history now action, motive history →
      motive (history.perform line now action))
    (actions : List (Nat × Port.Action)) {history : History σ}
    (initial : motive history) : motive (history.run line actions) := by
  induction actions generalizing history with
  | nil => exact initial
  | cons entry actions induction =>
      exact induction (keeps history entry.1 entry.2 initial)

end History

namespace Session

theorem follow_goesOn {session : Session σ} {result : Exchange.Step σ}
    {later : Exchange.Phase} {wire : Wire σ}
    (goes : result.goesOn? = some (later, wire)) :
    session.follow result = session.proceed later wire.line := by
  cases result <;> cases goes <;> rfl

theorem work_of_none {line : Line σ} {now : Nat} {port : Port σ}
    (session : Session σ) (nothing : port.worker.inHand? = none)
    (still : (port.workerProgress line now).worker.inHand? = none) :
    session.work line now port = session := by
  cases stage : port.worker.stage with
  | busy command phase => simp [Worker.inHand?, stage] at nothing
  | idle =>
      cases later : (port.workerProgress line now).worker.stage with
      | busy command phase => simp [Worker.inHand?, later] at still
      | idle => simp [work, stage, later]
      | stopped => simp [work, stage, later]
  | stopped =>
      cases later : (port.workerProgress line now).worker.stage with
      | busy command phase => simp [Worker.inHand?, later] at still
      | idle => simp [work, stage, later]
      | stopped => simp [work, stage, later]

theorem work_of_take {line : Line σ} {now : Nat} {port : Port σ}
    {command : Command} {phase : Exchange.Phase} (session : Session σ)
    (idle : port.worker.stage = .idle)
    (busy : (port.workerProgress line now).worker.stage =
      .busy command phase) :
    session.work line now port = session.take command := by
  simp [work, idle, busy]

theorem work_of_busy {port : Port σ} {command : Command}
    {phase : Exchange.Phase} (line : Line σ) (now : Nat)
    (session : Session σ) (busy : port.worker.stage = .busy command phase)
    (ongoing : ∀ cause, port.phase ≠ .aborting cause) :
    session.work line now port =
      (session.accept (Exchange.accepted line now phase port.wire)).follow
        (Exchange.step port.settings line now command.request phase
          port.wire) := by
  unfold work
  rw [busy]
  split
  case h_1 aborting => exact (ongoing _ aborting).elim
  case h_2 same _ =>
      cases same
      rfl
  case h_3 different _ =>
      exact (different command phase rfl).elim

theorem work_of_aborting {port : Port σ} {command : Command}
    {phase : Exchange.Phase} {cause : SessionEnd} (line : Line σ) (now : Nat)
    (session : Session σ) (busy : port.worker.stage = .busy command phase)
    (aborting : port.phase = .aborting cause) :
    session.work line now port = session.putDown none := by
  simp [work, busy, aborting]

end Session

/-- What a turn of the worker does to the session, beside what it does to the
port. -/
inductive Session.WorkTurn (line : Line σ) (now : Nat) (port : Port σ)
    (session : Session σ) : Prop where
  | idles :
      port.worker.inHand? = none →
      (port.workerProgress line now).worker = port.worker ∨
        (port.workerProgress line now).worker = port.worker.ended →
      (port.workerProgress line now).wire = port.wire →
      session.work line now port = session →
      WorkTurn line now port session
  | takes (command : Command) (rest : List Command) :
      port.worker.stage = .idle →
      port.worker.stopping = false →
      port.worker.queue = command :: rest →
      (port.workerProgress line now).worker =
        { port.worker with
          queue := rest
          stage := .busy command Exchange.start } →
      (port.workerProgress line now).wire = port.wire →
      session.work line now port = session.take command →
      WorkTurn line now port session
  | proceeds (command : Command) (phase later : Exchange.Phase) :
      port.worker.stage = .busy command phase →
      (Exchange.step port.settings line now command.request phase
        port.wire).goesOn? =
          some (later, (port.workerProgress line now).wire) →
      (port.workerProgress line now).worker =
        { port.worker with stage := .busy command later } →
      session.work line now port =
        (session.accept
          (Exchange.accepted line now phase port.wire)).proceed later
            (port.workerProgress line now).wire.line →
      WorkTurn line now port session
  | concludes (command : Command) (phase : Exchange.Phase)
      (outcome : Except Failure Bytes) (wire : Wire σ) :
      port.worker.stage = .busy command phase →
      Exchange.step port.settings line now command.request phase port.wire =
        .done outcome wire →
      (port.workerProgress line now).worker =
        { port.worker with stage := .idle } →
      (port.workerProgress line now).wire.line = wire.line →
      (port.workerProgress line now).answers =
        [{ number := command.number
           outcome := outcome }] →
      session.work line now port =
        (session.accept
          (Exchange.accepted line now phase port.wire)).putDown
            (some outcome) →
      WorkTurn line now port session
  | givesUp (command : Command) (phase : Exchange.Phase) :
      port.worker.stage = .busy command phase →
      (port.workerProgress line now).worker = port.worker.ended →
      (port.workerProgress line now).wire = port.wire →
      (port.workerProgress line now).answers =
        (command :: port.worker.queue).map (Worker.refuse port.settings) →
      session.work line now port = session.putDown none →
      WorkTurn line now port session

theorem Session.workTurn (line : Line σ) (now : Nat) (port : Port σ)
    (session : Session σ) : WorkTurn line now port session := by
  cases port.workTurn line now with
  | rests nothing worker wire =>
      have still : (port.workerProgress line now).worker.inHand? = none := by
        rw [worker, nothing]
      exact .idles nothing (Or.inl worker) wire
        (session.work_of_none nothing still)
  | stops nothing _ worker wire =>
      have still : (port.workerProgress line now).worker.inHand? = none := by
        rw [worker]
        rfl
      exact .idles nothing (Or.inr worker) wire
        (session.work_of_none nothing still)
  | takes command rest idle running queue worker wire =>
      have busy : (port.workerProgress line now).worker.stage =
          .busy command Exchange.start := by
        rw [worker]
      exact .takes command rest idle running queue worker wire
        (session.work_of_take idle busy)
  | proceeds command phase later busy ongoing step worker =>
      refine .proceeds command phase later busy step worker ?_
      rw [session.work_of_busy line now busy ongoing, Session.follow_goesOn step]
  | concludes command phase outcome wire busy ongoing step worker left
      answers =>
      refine .concludes command phase outcome wire busy step worker ?_ answers
        ?_
      · rw [left]
        split <;> rfl
      · rw [session.work_of_busy line now busy ongoing, step]
        rfl
  | givesUp command phase cause busy aborting worker wire answers =>
      exact .givesUp command phase busy worker wire answers
        (session.work_of_aborting line now busy aborting)

namespace History

theorem perform_of_begin (line : Line σ) (now : Nat) {action : Port.Action}
    {history : History σ}
    (begins : history.port.beginsSession action = true) :
    (history.perform line now action).session = Session.empty ∧
      (history.perform line now action).earlier = history.sessions := by
  simp [perform, begins, sessions]

theorem perform_of_ongoing (line : Line σ) (now : Nat)
    {action : Port.Action} {history : History σ}
    (ongoing : history.port.beginsSession action = false) :
    (history.perform line now action).session =
        history.session.observe line now action history.port ∧
      (history.perform line now action).earlier = history.earlier := by
  simp [perform, ongoing]

theorem observe_of_control {action : Port.Action} (line : Line σ) (now : Nat)
    (port : Port σ) (session : Session σ)
    (control : action.isControl = true) :
    session.observe line now action port = session := by
  cases action <;> simp_all [Port.Action.isControl, Session.observe]

theorem refuses_perform {history : History σ} {answer : CommandAnswer}
    (refuses : history.port.Refuses answer) (line : Line σ) (now : Nat)
    (action : Port.Action) :
    (history.perform line now action).port.Refuses answer := by
  have settings := Port.settings_perform line now action history.port
  simpa [Port.Refuses, History.perform, settings] using refuses

theorem answered_or_abandoned {history : History σ} {line : Line σ}
    {now : Nat} {answer : CommandAnswer}
    (given : answer ∈ (history.port.workerProgress line now).answers) :
    answer ∈ (history.perform line now .work).port.answers ∨
      answer.number ∈ history.port.abandoned := by
  by_cases left : answer.number ∈ history.port.abandoned
  · exact Or.inr left
  · left
    rw [perform, Port.answers_perform]
    refine List.mem_append_left _ (List.mem_reverse.mpr ?_)
    refine List.mem_filter.mpr ⟨given, ?_⟩
    simpa using left

def Watches (history : History σ) : Prop :=
  history.session.current.map
      (fun handling => (handling.command, handling.phase)) =
    history.port.worker.inHand?

namespace Watches

theorem fresh (settings : PortSettings) (reopenDelay : Nat) (state : σ) :
    Watches (History.fresh settings reopenDelay state) := rfl

theorem current {history : History σ} (watches : history.Watches)
    {command : Command} {phase : Exchange.Phase}
    (busy : history.port.worker.stage = .busy command phase) :
    ∃ handling, history.session.current = some handling ∧
      handling.command = command ∧ handling.phase = phase := by
  have known := watches
  rw [Watches, Worker.inHand?_of_busy busy] at known
  obtain ⟨handling, present, same⟩ := Option.map_eq_some_iff.mp known
  cases same
  exact ⟨handling, present, rfl, rfl⟩

theorem current_none {history : History σ} (watches : history.Watches)
    (nothing : history.port.worker.inHand? = none) :
    history.session.current = none := by
  rw [Watches, nothing] at watches
  exact Option.map_eq_none_iff.mp watches

theorem work {history : History σ} (watches : history.Watches)
    (line : Line σ) (now : Nat) :
    (history.perform line now .work).Watches := by
  have worker : (history.perform line now .work).port.worker =
      (history.port.workerProgress line now).worker := rfl
  have session : (history.perform line now .work).session =
      history.session.work line now history.port := rfl
  rw [Watches, worker, session]
  cases history.session.workTurn line now history.port with
  | idles nothing rested _ same =>
      rw [same, watches.current_none nothing]
      rcases rested with rested | stopped
      · rw [rested, nothing]
        rfl
      · rw [stopped]
        rfl
  | takes command rest _ _ _ taken _ same =>
      rw [same, taken]
      rfl
  | proceeds command phase later busy _ progress same =>
      obtain ⟨handling, present, rfl, _⟩ := watches.current busy
      rw [same, progress]
      simp [Session.proceed, Session.accept, present, Handling.proceed,
        Handling.accept, Worker.inHand?]
  | concludes _ _ _ _ _ _ progress _ _ same =>
      rw [same, progress]
      rfl
  | givesUp _ _ _ progress _ _ same =>
      rw [same, progress]
      rfl

theorem perform {history : History σ} (watches : history.Watches)
    (line : Line σ) (now : Nat) (action : Port.Action) :
    (history.perform line now action).Watches := by
  cases begins : history.port.beginsSession action with
  | true =>
      obtain ⟨rfl, opened⟩ :=
        (Port.beginsSession_iff history.port action).mp begins
      rw [Watches, (perform_of_begin line now begins).1]
      rcases Port.worker_supervise_of_opened now opened with same | same <;>
        simp [History.perform, Port.perform, same, Session.empty,
          Worker.inHand?, Worker.fresh]
  | false =>
      cases action using Port.Action.byPart with
      | control action control =>
          obtain ⟨closed, stopping, worker, _, _⟩ :=
            Port.worker_perform_of_control line now control begins
          rw [Watches, (perform_of_ongoing line now begins).1,
            observe_of_control line now _ _ control]
          simpa [Watches, History.perform, worker, Worker.inHand?]
            using watches
      | submit request =>
          rcases Port.submit_cases history.port request with
            ⟨_, _, _, equality⟩ | equality <;>
            simpa [Watches, History.perform, Port.perform, equality,
              Port.beginsSession, Session.observe, Session.enqueue,
              Worker.enqueue, Worker.inHand?] using watches
      | abandon number => exact watches
      | work => exact watches.work line now

end Watches

end History

end MeterLine
