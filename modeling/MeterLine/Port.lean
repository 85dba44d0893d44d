import MeterLine.Health
import MeterLine.Port.Worker
import MeterLine.Settings.Retry
import MeterLine.Text.Quoted

/-!
# Ports

A port keeps one serial line open.  Its supervisor opens the line, serves
commands until the session ends, lets the command in hand finish, closes the
line, and begins again after a pause.  External cancellation and disposal end
the port for good.

A port changes by actions only: a command is submitted, a signal is given, an
event arrives, the line answers an attempt to open it, the supervisor or the
worker runs.  Every action is a total function of the port and the instant at
which it happens, so that any interleaving is a list of actions.
-/

namespace MeterLine

/-- What a port is known to be doing. -/
inductive PortState where
  | closed
  | opening
  | running
  | faulted
  | disposed
  deriving Repr, DecidableEq, Inhabited

namespace PortState

def name : PortState → String
  | .closed => "closed"
  | .opening => "opening"
  | .running => "running"
  | .faulted => "faulted"
  | .disposed => "disposed"

def title (state : PortState) : String :=
  state.name.capitalize

end PortState

inductive OpenStage where
  | open
  | configure
  | stream
  | listen
  deriving Repr, DecidableEq, Inhabited

/-- What comes of an attempt to open a line: the step that fails, if any. -/
abbrev OpenFault := Option (OpenStage × Failure)

/-- Why a session ends. -/
inductive SessionEnd where
  | cancelled
  | disposed
  | hardwareFault
  deriving Repr, DecidableEq, Inhabited

/-- Where the supervisor of a port stands. -/
inductive Port.Phase where
  | starting
  | opening
  | opened (fault : OpenFault)
  | serving
  | closing (cause : SessionEnd) (deadline : Nat)
  /-- Waiting for a worker that was told to end where it stands. -/
  | aborting (cause : SessionEnd)
  | pausing (deadline : Nat)
  | finished
  deriving Repr, DecidableEq, Inhabited

structure LastError where
  message : String
  since : Nat
  deriving Repr, DecidableEq, Inhabited

/-- A port on a line with states of type `σ`. -/
structure Port (σ : Type) where
  settings : PortSettings
  reopenDelay : Nat
  state : PortState
  running : Bool
  disposed : Bool
  /-- Calls so far.  A call is known by its number, of which callers are shown
  sixty-four bits. -/
  commands : Nat
  attempts : UInt64
  lastError : Option LastError
  /-- Whether commands can reach the worker. -/
  connected : Bool
  cancelSignal : Bool
  disposeSignal : Bool
  phase : Port.Phase
  worker : Worker
  wire : Wire σ
  answers : List CommandAnswer
  /-- Commands whose callers no longer wait. -/
  abandoned : List Nat
  /-- Whether somebody already waits for the supervisor to finish. -/
  awaited : Bool

/-- What may happen to a port. -/
inductive Port.Action where
  | submit (request : Bytes)
  | abandon (number : Nat)
  | cancel
  | dispose
  | raise (event : PortEvent)
  | loseListener
  /-- The attempt to open the line is over. -/
  | answerOpen (fault : OpenFault)
  | supervise
  | work

namespace Port

def fresh (settings : PortSettings) (reopenDelay : Nat) (line : σ) :
    Port σ :=
  { settings := settings
    reopenDelay := reopenDelay
    state := .closed
    running := false
    disposed := false
    commands := 0
    attempts := 0
    lastError := none
    connected := false
    cancelSignal := false
    disposeSignal := false
    phase := .starting
    worker := { Worker.fresh with closed := true, stage := .stopped }
    wire := Wire.fresh line
    answers := []
    abandoned := []
    awaited := false }

/-- The time that a command in hand is granted when a session ends. -/
def grace (settings : PortSettings) : Nat :=
  settings.wait * 3

def record (port : Port σ) (act : Act) : Port σ :=
  { port with wire := port.wire.record act }

def setRunning (port : Port σ) (running : Bool) : Port σ :=
  { port.record (.running running) with running := running }

def disconnect (port : Port σ) : Port σ :=
  { port with
    connected := false
    worker := { port.worker with closed := true } }

/-- Submit a request.  The answer is the number of the command, or the failure
of a caller who need not wait. -/
def submit (port : Port σ) (request : Bytes) :
    Port σ × Except Failure Nat :=
  let number := port.commands + 1
  let counted := { port with commands := number }
  if port.running && port.connected && port.worker.accepts then
    ({ counted with
        worker := port.worker.enqueue
          { number := number
            request := request } },
      .ok number)
  else
    (counted, .error (.notRunning port.settings.name (.ofNat number)))

def dispose (port : Port σ) : Port σ :=
  if port.disposed then port
  else
    { ({ port with disposed := true }.disconnect).setRunning false with
      disposeSignal := true }

def answer? (port : Port σ) (number : Nat) : Option (Except Failure Bytes) :=
  (port.answers.find? fun answer => answer.number == number).map (·.outcome)

def finish (port : Port σ) (state : PortState) : Port σ :=
  { port with
    state := state
    phase := .finished }

def begin (port : Port σ) : Port σ :=
  if port.disposeSignal then port.finish .disposed
  else if port.cancelSignal then port.finish .closed
  else
    { port with
      state := .opening
      attempts := port.attempts + 1
      phase := .opening }

/-- Pause before the line is opened again, unless a signal was given or there
is no pause. -/
def pause (port : Port σ) (now : Nat) : Port σ :=
  let faulted := { port with state := .faulted }
  if port.cancelSignal then faulted.finish .closed
  else if port.disposeSignal then faulted.finish .disposed
  else if port.reopenDelay = 0 then faulted.begin
  else { faulted with phase := .pausing (now + port.reopenDelay) }

def note (port : Port σ) (now : Nat) (message : String) : Port σ :=
  { port with
    lastError := some
      { message := message
        since := now } }

def openTrouble (failure : Failure) : String :=
  match failure with
  | .portInUse _ _ => failure.message
  | .portNotFound _ => failure.message
  | _ => "unhandled error - " ++ failure.message

def openFailed (port : Port σ) (now : Nat) (failure : Failure) : Port σ :=
  (port.note now (openTrouble failure)).pause now

def close (port : Port σ) : Port σ :=
  port.record .closed

/-- The line answers an attempt to open it.  A line that cannot be configured
is closed at once. -/
def answerOpen (port : Port σ) (fault : OpenFault) : Port σ :=
  if port.phase = .opening then
    let opened := port.record .opened
    let acted :=
      match fault with
      | some (.open, _) => opened
      | some (.configure, _) => (opened.record .configured).close
      | _ => opened.record .configured
    { acted with phase := .opened fault }
  else port

/-- Why a running session has to end, if it has to.  External cancellation
comes before disposal, and both before hardware faults; a lost listener is a
hardware fault too. -/
def sessionEnd? (port : Port σ) : Option SessionEnd :=
  if port.cancelSignal then some .cancelled
  else if port.disposeSignal then some .disposed
  else if port.wire.faults ≠ [] ∨ port.wire.listening = false then
    some .hardwareFault
  else none

/-- The worker has stopped: give the line back, and go on as the cause of the
session's end demands. -/
def tearDown (port : Port σ) (now : Nat) (cause : SessionEnd) : Port σ :=
  let deaf := port.record .unlistened
  let closed :=
    { deaf with wire := { deaf.wire with listening := false } }.close
  match cause with
  | .cancelled => (closed.record .cleaned).finish .closed
  | .disposed => closed.finish .disposed
  | .hardwareFault =>
      ((closed.record .cleaned).note now "hardware error").pause now

/-- Go on ending a session.  Once the worker has stopped the session is torn
down; a worker that has not stopped by the deadline is told to end where it
stands. -/
def awaitWorker (port : Port σ) (now : Nat) (cause : SessionEnd)
    (deadline : Nat) : Port σ :=
  if port.worker.isStopped then port.tearDown now cause
  else if deadline ≤ now then { port with phase := .aborting cause }
  else { port with phase := .closing cause deadline }

/-- Begin to end a session: no further command is taken, and the command in
hand is granted its time. -/
def endSession (port : Port σ) (now : Nat) (cause : SessionEnd) : Port σ :=
  let cut := port.disconnect.setRunning false
  { cut with
    worker := { cut.worker with stopping := true } }.awaitWorker now cause
      (now + grace port.settings)

def checkSession (port : Port σ) (now : Nat) : Port σ :=
  match port.sessionEnd? with
  | some cause => port.endSession now cause
  | none => { port with phase := .serving }

def serve (port : Port σ) (now : Nat) : Port σ :=
  let installed : Port σ :=
    { port with
      wire :=
        { port.wire with
          ready := false
          listening := true
          faults := [] }
      worker := Worker.fresh
      connected := true
      lastError := none }
  { installed.setRunning true with state := .running }.checkSession now

def resume (port : Port σ) (now : Nat) (fault : OpenFault) : Port σ :=
  match fault with
  | some (.open, failure) => port.openFailed now failure
  | some (.configure, failure) => port.openFailed now failure
  | some (.stream, failure) =>
      ((port.record .streamed).close).openFailed now failure
  | some (.listen, failure) =>
      (((port.record .streamed).record .listened).close).openFailed now failure
  | none => ((port.record .streamed).record .listened).serve now

/-- Let the supervisor run.  A supervisor that waits for something that has not
happened goes on waiting. -/
def supervise (port : Port σ) (now : Nat) : Port σ :=
  match port.phase with
  | .starting => port.begin
  | .opening => port
  | .opened fault => port.resume now fault
  | .serving =>
      match port.sessionEnd? with
      | some cause => port.endSession now cause
      | none => port
  | .closing cause deadline => port.awaitWorker now cause deadline
  | .aborting cause =>
      if port.worker.isStopped then port.tearDown now cause else port
  | .pausing deadline =>
      if port.cancelSignal then port.finish .closed
      else if port.disposeSignal then port.finish .disposed
      else if deadline ≤ now then port.begin
      else port
  | .finished => port

/-- What the worker does next: one step, or, once it was told so, its end. -/
def workerProgress (line : Line σ) (port : Port σ) (now : Nat) :
    Worker.Progress σ :=
  match port.phase with
  | .aborting _ => port.worker.abort port.settings port.wire
  | _ => port.worker.step port.settings line now port.wire

/-- Hand answers to the callers that still wait. -/
def deliver (port : Port σ) (answers : List CommandAnswer) : Port σ :=
  let wanted := answers.filter fun answer =>
    !port.abandoned.contains answer.number
  { port with answers := wanted.reverse ++ port.answers }

def advance (port : Port σ) (progress : Worker.Progress σ) : Port σ :=
  { port with
    worker := progress.worker
    wire := progress.wire }.deliver progress.answers

def work (line : Line σ) (port : Port σ) (now : Nat) : Port σ :=
  port.advance (port.workerProgress line now)

def perform (line : Line σ) (now : Nat) (action : Action) (port : Port σ) :
    Port σ :=
  match action with
  | .submit request => (port.submit request).1
  | .abandon number =>
      { port with abandoned := number :: port.abandoned }
  | .cancel => { port with cancelSignal := true }
  | .dispose => port.dispose
  | .raise event => { port with wire := port.wire.hear event }
  | .loseListener =>
      { port with wire := { port.wire with listening := false } }
  | .answerOpen fault => port.answerOpen fault
  | .supervise => port.supervise now
  | .work => port.work line now

def health (port : Port σ) : Health :=
  if port.running then Health.up
  else if port.disposed then
    Health.down.withDetail "error" "already disposed"
  else
    match port.lastError with
    | some trouble =>
        (Health.outOfService.withDetail "lastError" trouble.message).withDetail
          "since" (toString trouble.since)
    | none => Health.outOfService.withDetail "state" port.state.name

/-- Dispose of the port in order to see its supervisor finish.  The answer says
whether the caller has to wait for that; only the first one has to. -/
def shutDown (port : Port σ) : Port σ × Bool :=
  ({ port.dispose with awaited := true }, !port.awaited)

def describe (port : Port σ) : String :=
  "SerialPortDriver \x7b name: " ++ Quoted.quote port.settings.name ++
    s!", state: {port.state.title}, running: {port.running} \x7d"

end Port

end MeterLine
