import MeterLine.Port.Exchange

/-!
# Workers

A worker serves the commands of one session in the order of their arrival, one
at a time.  It looks for the stop signal before it takes the next command; once
it has stopped, commands still queued have failed because the port does not
run.  Every command is answered once.
-/

namespace MeterLine

structure Command where
  number : Nat
  request : Bytes
  deriving Repr, DecidableEq, Inhabited

structure CommandAnswer where
  number : Nat
  outcome : Except Failure Bytes

namespace CommandAnswer

def octets? (answer : CommandAnswer) : Option Bytes :=
  match answer.outcome with
  | .ok octets => some octets
  | .error _ => none

def failure? (answer : CommandAnswer) : Option Failure :=
  match answer.outcome with
  | .ok _ => none
  | .error failure => some failure

end CommandAnswer

inductive Worker.Stage where
  | idle
  | busy (command : Command) (phase : Exchange.Phase)
  | stopped
  deriving Repr, DecidableEq, Inhabited

/-- A worker and its queue. -/
structure Worker where
  queue : List Command
  /-- No further command can arrive. -/
  closed : Bool
  /-- The stop signal was given. -/
  stopping : Bool
  stage : Worker.Stage
  deriving Repr, DecidableEq, Inhabited

namespace Worker

def fresh : Worker :=
  { queue := []
    closed := false
    stopping := false
    stage := .idle }

def enqueue (worker : Worker) (command : Command) : Worker :=
  { worker with queue := worker.queue ++ [command] }

def accepts (worker : Worker) : Bool :=
  !worker.closed && worker.stage != .stopped

def isStopped (worker : Worker) : Bool :=
  worker.stage == .stopped

def refuse (settings : PortSettings) (command : Command) : CommandAnswer :=
  { number := command.number
    outcome := .error (.notRunning settings.name (.ofNat command.number)) }

structure Progress (σ : Type) where
  worker : Worker
  wire : Wire σ
  /-- Commands answered in the step. -/
  answers : List CommandAnswer
  /-- Whether there may be more to do at once. -/
  more : Bool
  /-- From when on there is something to do, if nothing else happens. -/
  wake : Option Nat

/-- Stop, and refuse what is queued. -/
def stop (settings : PortSettings) (worker : Worker) (wire : Wire σ) :
    Progress σ :=
  { worker := { worker with queue := [], closed := true, stage := .stopped }
    wire := wire
    answers := worker.queue.map (refuse settings)
    more := false
    wake := none }

def answer (worker : Worker) (wire : Wire σ) (command : Command)
    (outcome : Except Failure Bytes) : Progress σ :=
  { worker := { worker with stage := .idle }
    wire := if outcome.isOk then wire.clear else wire.clear.failed
    answers :=
      [{ number := command.number
         outcome := outcome }]
    more := true
    wake := none }

def step (settings : PortSettings) (line : Line σ) (now : Nat)
    (worker : Worker) (wire : Wire σ) : Progress σ :=
  match worker.stage with
  | .stopped =>
      { worker := worker
        wire := wire
        answers := []
        more := false
        wake := none }
  | .idle =>
      if worker.stopping then stop settings worker wire
      else
        match worker.queue with
        | command :: queue =>
            { worker :=
                { worker with
                  queue := queue
                  stage := .busy command Exchange.start }
              wire := wire
              answers := []
              more := true
              wake := none }
        | [] =>
            if worker.closed then stop settings worker wire
            else
              { worker := worker
                wire := wire
                answers := []
                more := false
                wake := none }
  | .busy command phase =>
      match Exchange.step settings line now command.request phase wire with
      | .next phase wire =>
          { worker := { worker with stage := .busy command phase }
            wire := wire
            answers := []
            more := true
            wake := none }
      | .wait phase wire wake =>
          { worker := { worker with stage := .busy command phase }
            wire := wire
            answers := []
            more := false
            wake := some wake }
      | .done outcome wire => answer worker wire command outcome

/-- End a worker where it stands: the command in hand and those queued are
refused. -/
def abort (settings : PortSettings) (worker : Worker) (wire : Wire σ) :
    Progress σ :=
  let unfinished :=
    match worker.stage with
    | .busy command _ => command :: worker.queue
    | _ => worker.queue
  { worker := { worker with queue := [], closed := true, stage := .stopped }
    wire := wire
    answers := unfinished.map (refuse settings)
    more := false
    wake := none }

end Worker

end MeterLine
