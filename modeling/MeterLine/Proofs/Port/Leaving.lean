import MeterLine.Proofs.Port.Standing

/-!
# Callers that leave

A caller that waits for its answer holds on to the queue of its command.  When
it leaves it gives up both, and its command is served all the same.  The worker
would only notice if nobody held on to the queue any more, but a port that runs
holds on to it itself.  So two runs in which the same is done to a running port
agree on everything but the answers of callers that leave in one of them.
-/

namespace MeterLine

namespace Port

/-- What a port shows agrees, and the queue of a port that can be reached is
open. -/
structure Attends (port : Port σ) : Prop where
  agrees : ∃ trouble, port.face.Agrees trouble
  queueOpen : port.connected = true →
    port.worker.closed = false ∧ port.worker.stopping = false

variable {port next : Port σ} {now : Nat}

theorem Attends.fresh (settings : PortSettings) (reopenDelay : Nat)
    (state : σ) : (Port.fresh settings reopenDelay state).Attends :=
  ⟨⟨none, agrees_fresh settings reopenDelay state⟩, nofun⟩

theorem Attends.connected_iff (attends : port.Attends) :
    port.connected = true ↔ port.running = true := by
  obtain ⟨_, agrees⟩ := attends.agrees
  rcases agrees.session with serves | rests
  · exact ⟨fun _ => serves.running, fun _ => serves.connected⟩
  · constructor
    · intro connected
      exact absurd connected (Bool.eq_false_iff.mp rests.connected)
    · intro running
      exact absurd running (Bool.eq_false_iff.mp rests.running)

theorem serving_of_connected {trouble : Option String}
    (agrees : port.face.Agrees trouble) (connected : port.connected = true) :
    port.phase = .serving := by
  rcases agrees.session with serves | rests
  · exact serves.phase
  · exact absurd connected (Bool.eq_false_iff.mp rests.connected)

theorem Attends.serving (attends : port.Attends)
    (connected : port.connected = true) : port.phase = .serving := by
  obtain ⟨_, agrees⟩ := attends.agrees
  exact serving_of_connected agrees connected

theorem Begins.phase_ne (begins : port.Begins next) :
    next.phase ≠ .serving := by
  cases begins <;> nofun

theorem phase_pause_ne (port : Port σ) (now : Nat) :
    (port.pause now).phase ≠ .serving := by
  have pauses := port.pause_pauses now
  generalize port.pause now = next at pauses
  cases pauses with
  | begins _ begins => exact begins.phase_ne
  | waits => nofun

theorem phase_tearDown_ne (port : Port σ) (now : Nat) (cause : SessionEnd) :
    (port.tearDown now cause).phase ≠ .serving := by
  cases cause with
  | cancelled => nofun
  | disposed => nofun
  | hardwareFault => exact phase_pause_ne _ now

theorem phase_awaitWorker_ne (port : Port σ) (now : Nat) (cause : SessionEnd)
    (deadline : Nat) :
    (port.awaitWorker now cause deadline).phase ≠ .serving := by
  unfold awaitWorker
  split
  · exact phase_tearDown_ne port now cause
  · split <;> nofun

theorem phase_endSession_ne (port : Port σ) (now : Nat) (cause : SessionEnd) :
    (port.endSession now cause).phase ≠ .serving :=
  phase_awaitWorker_ne _ now cause _

theorem worker_resume_of_serving {fault : OpenFault}
    (serving : (port.resume now fault).phase = .serving) :
    (port.resume now fault).worker = Worker.fresh := by
  cases fault with
  | some trouble =>
      obtain ⟨stage, failure⟩ := trouble
      cases stage <;> exact (phase_pause_ne _ now serving).elim
  | none =>
      simp only [resume, serve_eq, checkSession] at serving ⊢
      split at serving
      case h_1 cause ends =>
          exact (phase_endSession_ne _ now cause serving).elim
      case h_2 => rfl

theorem supervise_of_serving
    (serving : (port.supervise now).phase = .serving) :
    (port.phase = .serving ∧ port.sessionEnd? = none) ∨
      (port.supervise now).worker = Worker.fresh := by
  have supervises := port.supervise_supervises now
  generalize port.supervise now = next at supervises serving
  cases supervises with
  | waits waits =>
      cases waits with
      | serving same goesOn => exact Or.inl ⟨same, goesOn⟩
      | _ => simp_all
  | begins _ _ begins => exact (begins.phase_ne serving).elim
  | resumes fault => exact Or.inr (worker_resume_of_serving serving)
  | ends cause => exact (phase_endSession_ne port now cause serving).elim
  | awaits cause deadline =>
      exact (phase_awaitWorker_ne port now cause deadline serving).elim
  | tearsDown cause => exact (phase_tearDown_ne port now cause serving).elim

theorem supervise_of_goesOn (serving : port.phase = .serving)
    (goesOn : port.sessionEnd? = none) : port.supervise now = port := by
  simp only [supervise, serving, goesOn]

theorem answerOpen_of_serving {fault : OpenFault}
    (serving : (port.answerOpen fault).phase = .serving) :
    port.answerOpen fault = port := by
  unfold answerOpen at serving ⊢
  split at serving
  case isTrue => cases serving
  case isFalse otherwise => rw [if_neg otherwise]

theorem worker_work (line : Line σ) (serving : port.phase = .serving)
    (open_ : port.worker.closed = false)
    (going : port.worker.stopping = false) :
    (port.work line now).worker.closed = false ∧
      (port.work line now).worker.stopping = false := by
  have worker : (port.work line now).worker =
      (port.workerProgress line now).worker := rfl
  rw [worker]
  cases port.workTurn line now with
  | rests _ same => rw [same]; exact ⟨open_, going⟩
  | stops _ cause =>
      rcases cause with stopping | closed | ⟨cause, aborting⟩
      · rw [going] at stopping
        cases stopping
      · rw [open_] at closed
        cases closed
      · rw [serving] at aborting
        cases aborting
  | takes _ _ _ _ _ same => rw [same]; exact ⟨open_, going⟩
  | proceeds _ _ _ _ _ _ same => rw [same]; exact ⟨open_, going⟩
  | concludes _ _ _ _ _ _ _ same => rw [same]; exact ⟨open_, going⟩
  | givesUp _ _ cause _ aborting =>
      rw [serving] at aborting
      cases aborting

theorem Attends.perform (attends : port.Attends) (line : Line σ) (now : Nat)
    (action : Action) : (port.perform line now action).Attends := by
  obtain ⟨trouble, agrees⟩ := attends.agrees
  have after := agrees_perform agrees line now action
  refine ⟨⟨_, after⟩, ?_⟩
  intro connected
  -- Whatever ends a session cuts the port off, so a port that can still be
  -- reached was left alone or has a new worker.
  have serving := serving_of_connected after connected
  cases action with
  | submit request =>
      rcases submit_cases port request with
        ⟨_, _, _, equality⟩ | equality <;>
        (simp only [Port.perform, equality] at connected ⊢
         exact attends.queueOpen connected)
  | dispose =>
      simp only [Port.perform, dispose] at connected ⊢
      split at connected
      case isTrue disposed =>
          rw [if_pos disposed]
          exact attends.queueOpen connected
      case isFalse => cases connected
  | answerOpen fault =>
      have same := answerOpen_of_serving serving
      simp only [Port.perform, same] at connected ⊢
      exact attends.queueOpen connected
  | supervise =>
      rcases supervise_of_serving serving with ⟨before, goesOn⟩ | begun
      · have same : port.supervise now = port :=
          supervise_of_goesOn before goesOn
        simp only [Port.perform, same] at connected ⊢
        exact attends.queueOpen connected
      · simp only [Port.perform, begun]
        exact ⟨rfl, rfl⟩
  | work =>
      have open_ := attends.queueOpen connected
      exact worker_work line serving open_.1 open_.2
  | abandon | cancel | raise | loseListener =>
      exact attends.queueOpen connected

theorem Attends.run (attends : port.Attends) (line : Line σ)
    (actions : List (Nat × Action)) : (port.run line actions).Attends := by
  induction actions generalizing port with
  | nil => exact attends
  | cons entry actions induction =>
      exact induction (attends.perform line entry.1 entry.2)

/-- The port but for the callers that wait and those that were answered. -/
def bare (port : Port σ) : Port σ :=
  { port with
    answers := []
    abandoned := [] }

def written (line : Line σ) (now : Nat) (action : Action) (port : Port σ) :
    Bytes :=
  match action, port.phase, port.worker.stage with
  | .work, .aborting _, _ => []
  | .work, _, .busy _ phase =>
      Exchange.accepted line now phase port.wire
  | _, _, _ => []

theorem written_bare (line : Line σ) (now : Nat) (action : Action)
    (port : Port σ) :
    port.bare.written line now action = port.written line now action := rfl

/-- The supervisor leaves a session alone that still runs after its turn. -/
theorem sessionEnd?_of_still {line : Line σ} {action : Action}
    (serving : port.phase = .serving)
    (still : (port.perform line now action).phase = .serving)
    (supervised : action = .supervise) : port.sessionEnd? = none := by
  subst supervised
  cases ends : port.sessionEnd? with
  | none => rfl
  | some cause =>
      simp only [perform, supervise, serving, ends] at still
      exact (phase_endSession_ne port now cause still).elim

/-- What an action does to a port that goes on running does not depend on who
waits. -/
theorem bare_perform (line : Line σ) (now : Nat) {action : Action}
    (serving : port.phase = .serving)
    (goesOn : action = .supervise → port.sessionEnd? = none) :
    (port.perform line now action).bare =
      (port.bare.perform line now action).bare := by
  cases action with
  | submit request =>
      simp only [perform, submit]
      have same : (port.bare.running && port.bare.connected &&
          port.bare.worker.accepts) =
        (port.running && port.connected && port.worker.accepts) := rfl
      rw [same]
      split <;> rfl
  | dispose =>
      simp only [perform, dispose]
      have same : port.bare.disposed = port.disposed := rfl
      rw [same]
      split <;> rfl
  | answerOpen fault =>
      have otherwise : port.phase ≠ .opening := by
        rw [serving]
        intro impossible
        cases impossible
      have same : port.bare.phase = port.phase := rfl
      simp only [perform, answerOpen, same, if_neg otherwise]
      rfl
  | supervise =>
      have ends := goesOn rfl
      have same : port.bare.supervise now = port.bare :=
        supervise_of_goesOn serving ends
      simp only [perform, supervise_of_goesOn serving ends, same]
      rfl
  | abandon | cancel | raise | loseListener | work => rfl

theorem bare_perform_of_bare {other : Port σ} {line : Line σ}
    {action : Action} (same : port.bare = other.bare)
    (serving : other.phase = .serving)
    (still : (other.perform line now action).phase = .serving) :
    (port.perform line now action).bare =
      (other.perform line now action).bare := by
  have phase : port.bare.phase = other.bare.phase := congrArg Port.phase same
  have ends : port.bare.sessionEnd? = other.bare.sessionEnd? :=
    congrArg Port.sessionEnd? same
  have goesOn := sessionEnd?_of_still serving still
  rw [bare_perform line now serving goesOn, ← same]
  exact bare_perform line now (phase.trans serving) fun supervised =>
    ends.trans (goesOn supervised)

theorem abandoned_of_stays {action : Action}
    (stays : ∀ number, action ≠ .abandon number) (line : Line σ) (now : Nat)
    (port : Port σ) :
    (port.perform line now action).abandoned = port.abandoned := by
  rcases abandoned_perform line now action port with same | ⟨number, is, _⟩
  · exact same
  · exact (stays number is).elim

def answersTo (port : Port σ) (number : Nat) : List CommandAnswer :=
  port.answers.filter (·.number == number)

theorem answer?_eq (port : Port σ) (number : Nat) :
    port.answer? number = (port.answersTo number).head?.map (·.outcome) := by
  rw [answer?, answersTo, List.head?_filter]

theorem answersTo_perform (line : Line σ) (now : Nat) (action : Action)
    (port : Port σ) (number : Nat) :
    (port.perform line now action).answersTo number =
      ((port.deliveries line now action).filter
        (·.number == number)).reverse ++ port.answersTo number := by
  rw [answersTo, answers_perform, List.filter_append, List.filter_reverse]
  rfl

/-- What is handed to a caller depends on whether it waits itself, and on no
other caller. -/
theorem deliveries_of_bare {other : Port σ} (same : port.bare = other.bare)
    {number : Nat}
    (waits : port.abandoned.contains number =
      other.abandoned.contains number) (line : Line σ) (action : Action) :
    (port.deliveries line now action).filter (·.number == number) =
      (other.deliveries line now action).filter (·.number == number) := by
  cases action with
  | work =>
      have progress : port.bare.workerProgress line now =
          other.bare.workerProgress line now :=
        congrArg (fun port => port.workerProgress line now) same
      have answers : (port.workerProgress line now).answers =
          (other.workerProgress line now).answers :=
        congrArg (·.answers) progress
      simp only [deliveries, answers, List.filter_filter]
      apply List.filter_congr
      intro answer _
      cases own : answer.number == number with
      | false => rfl
      | true => rw [eq_of_beq own, waits]
  | _ => rfl

/-- What the caller of a command finds after each of some actions. -/
def finds (line : Line σ) (number : Nat) :
    List (Nat × Action) → Port σ → List (Nat × Option (Except Failure Bytes))
  | [], _ => []
  | (now, action) :: actions, port =>
      let next := port.perform line now action
      (now, next.answer? number) :: finds line number actions next

def RunsThrough (line : Line σ) : List (Nat × Action) → Port σ → Prop
  | [], port => port.running = true
  | entry :: actions, port =>
      port.running = true ∧
        RunsThrough line actions (port.perform line entry.1 entry.2)

instance decidableRunsThrough (line : Line σ) :
    (actions : List (Nat × Action)) → (port : Port σ) →
      Decidable (port.RunsThrough line actions)
  | [], port => inferInstanceAs (Decidable (port.running = true))
  | entry :: actions, port =>
      letI := decidableRunsThrough line actions
        (port.perform line entry.1 entry.2)
      inferInstanceAs (Decidable (_ ∧ _))

theorem RunsThrough.running {line : Line σ} {actions : List (Nat × Action)}
    (runs : port.RunsThrough line actions) : port.running = true := by
  cases actions with
  | nil => exact runs
  | cons => exact runs.1

end Port

/-- A port with the callers that hold on to the queue of its worker, and a
record of what the line accepted, with the instants. -/
structure Lobby (σ : Type) where
  port : Port σ
  holders : List Nat
  writes : List (Nat × Bytes)

/-- What may happen around a port. -/
inductive Lobby.Event where
  | act (action : Port.Action)
  /-- A caller that was answered goes on, and lets go of the queue. -/
  | resume (number : Nat)

namespace Lobby

def enter (port : Port σ) (holders : List Nat) : Lobby σ :=
  { port := port
    holders := holders
    writes := [] }

/-- The queue is open as long as the port or a caller holds on to it. -/
def isOpen (lobby : Lobby σ) : Bool :=
  lobby.port.connected || !lobby.holders.isEmpty

/-- The port with its queue as the worker finds it. -/
def seen (lobby : Lobby σ) : Port σ :=
  { lobby.port with
    worker := { lobby.port.worker with closed := !lobby.isOpen } }

def letGo (number : Nat) (holders : List Nat) : List Nat :=
  holders.filter (· != number)

def holdersAfter (lobby : Lobby σ) : Port.Action → List Nat
  | .submit request =>
      match (lobby.seen.submit request).2 with
      | .ok number => number :: lobby.holders
      | .error _ => lobby.holders
  | .abandon number => letGo number lobby.holders
  | _ => lobby.holders

def act (line : Line σ) (now : Nat) (action : Port.Action)
    (lobby : Lobby σ) : Lobby σ :=
  let octets := lobby.seen.written line now action
  { port := lobby.seen.perform line now action
    holders := lobby.holdersAfter action
    writes := lobby.writes ++
      if octets.isEmpty then [] else [(now, octets)] }

def perform (line : Line σ) (now : Nat) (lobby : Lobby σ) : Event → Lobby σ
  | .act action => lobby.act line now action
  | .resume number =>
      { lobby with holders := letGo number lobby.holders }

def run (line : Line σ) (events : List (Nat × Event)) (lobby : Lobby σ) :
    Lobby σ :=
  events.foldl (fun lobby entry => lobby.perform line entry.1 entry.2) lobby

namespace Event

def call? : Event → Option Port.Action
  | .act (.abandon _) => none
  | .act action => some action
  | .resume _ => none

def calls (events : List (Nat × Event)) : List (Nat × Port.Action) :=
  events.filterMap fun entry => entry.2.call?.map fun action =>
    (entry.1, action)

def ofCalls (actions : List (Nat × Port.Action)) : List (Nat × Event) :=
  actions.map fun entry => (entry.1, .act entry.2)

def Leaves (events : List (Nat × Event)) (number : Nat) : Prop :=
  ∃ now, (now, .act (.abandon number)) ∈ events

theorem calls_append (events further : List (Nat × Event)) :
    calls (events ++ further) = calls events ++ calls further :=
  List.filterMap_append

theorem call?_of_stays {action : Port.Action}
    (stays : ∀ number, action ≠ .abandon number) :
    (Event.act action).call? = some action := by
  cases action with
  | abandon number => exact (stays number rfl).elim
  | _ => rfl

theorem calls_of_stays {action : Port.Action} {now : Nat}
    {events : List (Nat × Event)}
    (stays : ∀ number, action ≠ .abandon number) :
    calls ((now, .act action) :: events) = (now, action) :: calls events := by
  simp [calls, call?_of_stays stays]

end Event

/-- What the caller of a command finds at the port after everything that
happens, but for callers that go away. -/
def finds (line : Line σ) (number : Nat) :
    List (Nat × Event) → Lobby σ → List (Nat × Option (Except Failure Bytes))
  | [], _ => []
  | (now, event) :: events, lobby =>
      let next := lobby.perform line now event
      let rest := finds line number events next
      match event.call? with
      | some _ => (now, next.port.answer? number) :: rest
      | none => rest

/-- Two lobbies agree on everything but the callers that left in one of
them. -/
structure Alike (left : Nat → Prop) (lobby other : Lobby σ) : Prop where
  port : lobby.port.bare = other.port.bare
  waits : ∀ number, ¬left number →
    lobby.port.abandoned.contains number =
      other.port.abandoned.contains number
  writes : lobby.writes = other.writes
  answers : ∀ number, ¬left number →
    lobby.port.answersTo number = other.port.answersTo number

variable {left : Nat → Prop} {lobby other : Lobby σ} {line : Line σ}
  {now : Nat} {action : Port.Action}

theorem Alike.enter (left : Nat → Prop) (port : Port σ)
    (holders others : List Nat) :
    Alike left (enter port holders) (enter port others) :=
  ⟨rfl, fun _ _ => rfl, rfl, fun _ _ => rfl⟩

theorem Alike.answer? (alike : Alike left lobby other) {number : Nat}
    (stays : ¬left number) :
    lobby.port.answer? number = other.port.answer? number := by
  rw [Port.answer?_eq, Port.answer?_eq, alike.answers number stays]

theorem Alike.connected (alike : Alike left lobby other) :
    lobby.port.connected = other.port.connected := by
  have same : lobby.port.bare.connected = other.port.bare.connected :=
    congrArg Port.connected alike.port
  exact same

theorem seen_of_connected (attends : lobby.port.Attends)
    (connected : lobby.port.connected = true) : lobby.seen = lobby.port := by
  have closed : (!lobby.isOpen) = lobby.port.worker.closed := by
    rw [(attends.queueOpen connected).1, isOpen, connected]
    rfl
  rw [seen, closed]

theorem act_of_connected (attends : lobby.port.Attends)
    (connected : lobby.port.connected = true) (line : Line σ) (now : Nat)
    (action : Port.Action) :
    (lobby.act line now action).port = lobby.port.perform line now action ∧
      (lobby.act line now action).writes = lobby.writes ++
        (if (lobby.port.written line now action).isEmpty then []
        else [(now, lobby.port.written line now action)]) := by
  rw [act, seen_of_connected attends connected]
  exact ⟨rfl, rfl⟩

theorem attends_act (attends : lobby.port.Attends)
    (connected : lobby.port.connected = true) (line : Line σ) (now : Nat)
    (action : Port.Action) : (lobby.act line now action).port.Attends := by
  rw [(act_of_connected attends connected line now action).1]
  exact attends.perform line now action

/-- The same is done to both ports. -/
theorem Alike.act (alike : Alike left lobby other)
    (attends : lobby.port.Attends) (others : other.port.Attends)
    (connected : other.port.connected = true)
    (still : (other.port.perform line now action).connected = true)
    (stays : ∀ number, action ≠ .abandon number) :
    Alike left (lobby.act line now action) (other.act line now action) := by
  have reached := alike.connected.trans connected
  have after := (others.perform line now action).serving still
  have mine := act_of_connected attends reached line now action
  have theirs := act_of_connected others connected line now action
  constructor
  · rw [mine.1, theirs.1]
    exact Port.bare_perform_of_bare alike.port (others.serving connected) after
  · intro number stayed
    rw [mine.1, theirs.1, Port.abandoned_of_stays stays,
      Port.abandoned_of_stays stays]
    exact alike.waits number stayed
  · rw [mine.2, theirs.2, alike.writes, ← Port.written_bare, alike.port,
      Port.written_bare]
  · intro number stayed
    rw [mine.1, theirs.1, Port.answersTo_perform, Port.answersTo_perform,
      alike.answers number stayed,
      Port.deliveries_of_bare alike.port (alike.waits number stayed)]

theorem Alike.leave (alike : Alike left lobby other)
    (attends : lobby.port.Attends)
    (connected : other.port.connected = true) {number : Nat}
    (leaves : left number) :
    Alike left (lobby.act line now (.abandon number)) other := by
  have reached := alike.connected.trans connected
  have mine := act_of_connected attends reached line now (.abandon number)
  constructor
  · rw [mine.1]
    exact alike.port
  · intro stayer stayed
    rw [mine.1, ← alike.waits stayer stayed]
    have differ : stayer ≠ number := by
      rintro rfl
      exact stayed leaves
    simp [Port.perform, differ]
  · rw [mine.2, ← alike.writes]
    simp [Port.written]
  · intro stayer stayed
    rw [mine.1, ← alike.answers stayer stayed, Port.answersTo_perform]
    rfl

theorem Alike.resume (alike : Alike left lobby other) (line : Line σ)
    (now number : Nat) :
    Alike left (lobby.perform line now (.resume number)) other :=
  ⟨alike.port, alike.waits, alike.writes, alike.answers⟩

/-- What happens around a port that runs comes to what would have happened had
nobody gone away, and those who stay find at every moment what they would have
found. -/
theorem Alike.run (alike : Alike left lobby other)
    (attends : lobby.port.Attends) (others : other.port.Attends)
    {events : List (Nat × Event)}
    (leavers : ∀ number, Event.Leaves events number → left number)
    (runs : other.port.RunsThrough line (Event.calls events)) :
    Alike left (lobby.run line events)
        (other.run line (Event.ofCalls (Event.calls events))) ∧
      ∀ number, ¬left number → lobby.finds line number events =
        other.port.finds line number (Event.calls events) := by
  induction events generalizing lobby other with
  | nil => exact ⟨alike, fun _ _ => rfl⟩
  | cons entry events induction =>
      obtain ⟨now, event⟩ := entry
      have connected := others.connected_iff.mpr runs.running
      have reached := alike.connected.trans connected
      have rest : ∀ number, Event.Leaves events number → left number := by
        rintro number ⟨instant, member⟩
        exact leavers number ⟨instant, List.mem_cons_of_mem _ member⟩
      cases event with
      | resume number =>
          exact induction (alike.resume line now number) attends others rest
            runs
      | act action =>
          have after := attends_act attends reached line now action
          -- Only one side moves when a caller goes away.
          by_cases stays : ∀ number, action ≠ .abandon number
          · have called := Event.call?_of_stays stays
            rw [Event.calls_of_stays stays] at runs ⊢
            have served := others.perform line now action
            have still := served.connected_iff.mpr runs.2.running
            have further := runs.2
            have theirs := act_of_connected others connected line now action
            rw [← theirs.1] at further
            have step := alike.act attends others connected still stays
            have whole := induction step after
              (attends_act others connected line now action) rest further
            refine ⟨whole.1, fun number stayed => ?_⟩
            have later := whole.2 number stayed
            have found := step.answer? stayed
            rw [theirs.1] at later found
            simp only [finds, called, Port.finds, perform]
            rw [later, found]
          · obtain ⟨number, rfl⟩ : ∃ number, action = .abandon number := by
              simpa using stays
            have leaves := leavers number ⟨now, List.mem_cons_self⟩
            exact induction (alike.leave attends connected leaves)
              after others rest runs

/-- A port that runs behaves as if nobody else held on to its queue. -/
theorem port_run_ofCalls (attends : lobby.port.Attends)
    {actions : List (Nat × Port.Action)}
    (runs : lobby.port.RunsThrough line actions) :
    (lobby.run line (Event.ofCalls actions)).port =
      lobby.port.run line actions := by
  induction actions generalizing lobby with
  | nil => rfl
  | cons entry actions induction =>
      obtain ⟨now, action⟩ := entry
      have connected := attends.connected_iff.mpr runs.running
      have same := (act_of_connected attends connected line now action).1
      have after := attends_act attends connected line now action
      have rest : (lobby.act line now action).port.RunsThrough line
          actions := by
        rw [same]
        exact runs.2
      have further := induction after rest
      rw [same] at further
      exact further

/-- Callers that leave while the port runs change nothing for the line, for the
counters and for those who stay.  What the line accepts and when is what it
accepts under any other schedule of the same calls; the port is the one that
was called and that nobody left; and those who stay find after everything that
happens the answer, or none yet, that they find there. -/
theorem leaving_changes_nothing (settings : PortSettings) (reopenDelay : Nat)
    (state : σ) (line : Line σ) (before : List (Nat × Port.Action))
    (holders others : List Nat) {schedule reschedule : List (Nat × Event)}
    (same : Event.calls schedule = Event.calls reschedule)
    (runs : ((Port.fresh settings reopenDelay state).run line
      before).RunsThrough line (Event.calls schedule)) :
    let port := (Port.fresh settings reopenDelay state).run line before
    let ran := (enter port holders).run line schedule
    let reran := (enter port others).run line reschedule
    ran.writes = reran.writes ∧ ran.port.wire = reran.port.wire ∧
      ran.port.bare = (port.run line (Event.calls schedule)).bare ∧
        (∀ number, ¬Event.Leaves schedule number →
          (enter port holders).finds line number schedule =
            port.finds line number (Event.calls schedule)) ∧
          ∀ number, ¬Event.Leaves schedule number →
            ¬Event.Leaves reschedule number →
              (enter port holders).finds line number schedule =
                (enter port others).finds line number reschedule ∧
              ran.port.answersTo number = reran.port.answersTo number := by
  intro port ran reran
  have attends : port.Attends :=
    (Port.Attends.fresh settings reopenDelay state).run line before
  let attended := (enter port []).run line
    (Event.ofCalls (Event.calls schedule))
  have reruns : (enter port []).port.RunsThrough line
      (Event.calls reschedule) := same ▸ runs
  have first := (Alike.enter (Event.Leaves schedule) port holders []).run
    attends attends (fun _ leaves => leaves) runs
  have second := (Alike.enter (Event.Leaves reschedule) port others []).run
    attends attends (fun _ leaves => leaves) reruns
  rw [← same] at second
  have called : attended.port = port.run line (Event.calls schedule) := by
    have alone : (enter port []).port.Attends := attends
    exact port_run_ofCalls alone runs
  have bare : ran.port.bare = reran.port.bare :=
    first.1.port.trans second.1.port.symm
  have wire : ran.port.bare.wire = reran.port.bare.wire :=
    congrArg Port.wire bare
  refine ⟨first.1.writes.trans second.1.writes.symm, wire, ?_, first.2, ?_⟩
  · rw [← called]
    exact first.1.port
  · intro number stays restays
    exact ⟨(first.2 number stays).trans (second.2 number restays).symm,
      (first.1.answers number stays).trans
        (second.1.answers number restays).symm⟩

def opening : List (Nat × Port.Action) :=
  [(0, .supervise), (0, .answerOpen none), (0, .supervise)]

def service (meanwhile : List (Nat × Event)) : List (Nat × Event) :=
  [(0, .act (.submit [5])), (0, .act (.submit [6])), (0, .act .work)] ++
    meanwhile ++
      (List.range 24).flatMap fun turn =>
        List.replicate 12 (2 * turn, .act .work)

theorem first_leaves_second_answered :
    let port := (Port.fresh (PortSettings.named "echo") 0 EchoLine.fresh).run
      EchoLine.interface opening
    let deserted := service [(0, .act (.abandon 1))]
    let ran := (enter port []).run EchoLine.interface deserted
    let attended := (enter port []).run EchoLine.interface (service [])
    attended.writes.map (·.2) = [[5], [6]] ∧
      attended.port.answer? 1 = some (.ok [5]) ∧
        ran.port.answer? 1 = none ∧
        ran.port.answer? 2 = some (.ok [6]) ∧
          ran.writes = attended.writes ∧
            ran.port.wire = attended.port.wire ∧
              (enter port []).finds EchoLine.interface 2 deserted =
                (enter port []).finds EchoLine.interface 2 (service []) := by
  have same : Event.calls (service [(0, .act (.abandon 1))]) =
      Event.calls (service []) := by
    simp only [service, Event.calls_append]
    rfl
  have runs : ((Port.fresh (PortSettings.named "echo") 0 EchoLine.fresh).run
      EchoLine.interface opening).RunsThrough EchoLine.interface
      (Event.calls (service [(0, .act (.abandon 1))])) := by
    decide +kernel
  have stays : ¬Event.Leaves (service [(0, .act (.abandon 1))]) 2 := by
    rintro ⟨now, member⟩
    simp [service] at member
  have restays : ¬Event.Leaves (service []) 2 := by
    rintro ⟨now, member⟩
    simp [service] at member
  have general := leaving_changes_nothing (PortSettings.named "echo") 0
    EchoLine.fresh EchoLine.interface opening [] [] same runs
  simp only at general ⊢
  obtain ⟨writes, wire, -, -, found⟩ := general
  refine ⟨by decide +kernel, by decide +kernel, by decide +kernel,
    by decide +kernel, writes, wire, ?_⟩
  exact (found 2 stays restays).1

end Lobby

end MeterLine
