import MeterLine.Frame.Request
import MeterLine.Payload
import MeterLine.Settings.Retry
import MeterLine.Traffic

/-!
# Executing functions

An execution sends one request until it gets a reply that it can use or may not
ask again.  A reply is cut to the size of the function and then has to pass its
check, come from the meter that was asked, and decode.  Only a failed check and
a foreign sender are worth another attempt.  The executor numbers executions,
shows every reply to the payload log, and counts how each execution ended.
-/

namespace MeterLine

/-- What a reply is worth to a request. -/
def Request.judge (request : Request) (check : FrameCheck)
    (function : MeterFunction) (reply : Bytes) : Except Failure Reading :=
  let kept := reply.take function.replySize
  if check.intact kept = false then .error .checkMismatch
  else if request.isAnsweredBy kept = false then
    .error (.deviceMismatch request.device (kept.headD 0))
  else function.decode kept

/-- How attempts end after so many retries: their outcome, with a failure that
was worth another attempt reported as one that outlasted all of them. -/
def giveUp (retries : UInt32) :
    Except Failure Reading → Except Failure Reading
  | .ok reading => .ok reading
  | .error failure =>
      if failure.retryable then
        .error (.retriesExhausted (retries + 1) failure)
      else .error failure

def isRetryable : Except Failure Reading → Bool
  | .ok _ => false
  | .error failure => failure.retryable

/-- A function on its way: the request and its frame, the name it is logged
under, and the instant at which it runs out of time. -/
structure Execution where
  function : MeterFunction
  request : Request
  message : Bytes
  context : String
  deadline : Nat
  deriving Repr, DecidableEq, Inhabited

/-- The state shared by all executions. -/
structure Executor where
  check : FrameCheck
  policy : RetryPolicy
  begun : UInt64
  ledger : Ledger
  /-- What the payload log was shown, oldest first. -/
  payloads : List Payload

namespace Executor

def fresh (check : FrameCheck) (policy : RetryPolicy) : Executor :=
  { check := check
    policy := policy
    begun := 0
    ledger := Ledger.empty
    payloads := [] }

def complete (executor : Executor) (function : MeterFunction)
    (outcome : Except Failure Reading) : Executor :=
  { executor with
    ledger := executor.ledger.completed function.name outcome.isOk }

/-- Begin an execution.  A request without a valid frame completes at once. -/
def start (executor : Executor) (now : Nat) (function : MeterFunction)
    (request : Request) : Executor × Except Failure Execution :=
  let number := executor.begun + 1
  let counted := { executor with begun := number }
  match request.message executor.check.stamp with
  | .ok message =>
      (counted, .ok
        { function := function
          request := request
          message := message
          context := s!"[{number}] {request.label}"
          deadline := now + executor.policy.deadline })
  | .error failure => (counted.complete function (.error failure),
      .error failure)

def log (executor : Executor) (execution : Execution) (reply : Bytes) :
    Executor :=
  let payload : Payload :=
    { context := execution.context
      request := execution.message
      reply := reply.take execution.function.replySize }
  { executor with payloads := executor.payloads ++ [payload] }

def receive (executor : Executor) (execution : Execution)
    (outcome : Except Failure Bytes) :
    Executor × Except Failure Reading :=
  match outcome with
  | .ok reply =>
      (executor.log execution reply,
        execution.request.judge executor.check execution.function reply)
  | .error failure => (executor, .error failure)

def finish (executor : Executor) (execution : Execution) (retries : UInt32)
    (outcome : Except Failure Reading) :
    Executor × Except Failure Reading :=
  let concluded := giveUp retries outcome
  (executor.complete execution.function concluded, concluded)

def expiry (executor : Executor) (execution : Execution) : Failure :=
  .timeout s!"{execution.context} function {execution.function.name}"
    executor.policy.deadline

def expire (executor : Executor) (execution : Execution) :
    Executor × Except Failure Reading :=
  let failure := executor.expiry execution
  (executor.complete execution.function (.error failure), .error failure)

end Executor

def Reading.expectSingle (reading : Reading) : Except Failure Single :=
  match reading.single? with
  | some value => .ok value
  | none => .error (.invalidData s!"expected f32, got {reading.formatName}")

def Reading.expectOctet (reading : Reading) : Except Failure UInt8 :=
  match reading.octet? with
  | some value => .ok value
  | none => .error (.invalidData s!"expected u8, got {reading.formatName}")

end MeterLine
