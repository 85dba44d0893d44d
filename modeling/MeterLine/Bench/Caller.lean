import MeterLine.Executor
import MeterLine.Port

/-!
# Callers

A caller wants something of one port: the answer to a message of its own, or
the reading of a function.  It acts when it is given a turn, and then goes on
until it has to wait: for the port to answer, for a pause between attempts to
be over, or for nothing more.
-/

namespace MeterLine.Bench

inductive Errand where
  | message (request : Bytes)
  | function (function : MeterFunction) (request : Request)
  deriving Repr, DecidableEq, Inhabited

inductive Caller.Stage where
  | fresh
  | sent (number : Nat)
  | asking (execution : Execution) (retries : UInt32) (number : Nat)
  | pausing (execution : Execution) (retries : UInt32) (wake : Nat)
  | answered (outcome : Except Failure Bytes) (instant : Nat)
  | concluded (outcome : Except Failure Reading) (instant : Nat)
  | gone

/-- Someone who wants something of the port at a position. -/
structure Caller where
  port : Nat
  errand : Errand
  stage : Caller.Stage

namespace Caller

def fresh (port : Nat) (errand : Errand) : Caller :=
  { port := port
    errand := errand
    stage := .fresh }

def isOver (caller : Caller) : Bool :=
  match caller.stage with
  | .answered _ _ => true
  | .concluded _ _ => true
  | .gone => true
  | _ => false

def number? (caller : Caller) : Option Nat :=
  match caller.stage with
  | .sent number => some number
  | .asking _ _ number => some number
  | _ => none

/-- From when on a caller has something to do, whatever the port does. -/
def wake? (caller : Caller) : Option Nat :=
  match caller.stage with
  | .asking execution _ _ => some execution.deadline
  | .pausing execution _ wake => some (min wake execution.deadline)
  | _ => none

/-- Whether a turn would get a caller any further. -/
def isReady (port : Port σ) (now : Nat) (caller : Caller) : Bool :=
  let answered :=
    match caller.number? with
    | some number => (port.answer? number).isSome
    | none => false
  let due :=
    match caller.wake? with
    | some wake => decide (wake ≤ now)
    | none => false
  match caller.stage with
  | .fresh => true
  | _ => answered || due

def reply? (caller : Caller) : Option (Except Failure Bytes) :=
  match caller.stage with
  | .answered outcome _ => some outcome
  | _ => none

def reading? (caller : Caller) : Option (Except Failure Reading) :=
  match caller.stage with
  | .concluded outcome _ => some outcome
  | _ => none

def instant? (caller : Caller) : Option Nat :=
  match caller.stage with
  | .answered _ instant => some instant
  | .concluded _ instant => some instant
  | _ => none

structure Turned (σ : Type) where
  caller : Caller
  executor : Executor
  port : Port σ

def conclude (caller : Caller) (port : Port σ) (now : Nat)
    (ended : Executor × Except Failure Reading) : Turned σ :=
  { caller := { caller with stage := .concluded ended.2 now }
    executor := ended.1
    port := port }

/-- Wait, unless time has run out; whoever runs out of time no longer waits for
an answer. -/
def wait (caller : Caller) (executor : Executor) (port : Port σ) (now : Nat)
    (execution : Execution) (stage : Stage) : Turned σ :=
  let waiting := { caller with stage := stage }
  if execution.deadline ≤ now then
    let left :=
      match waiting.number? with
      | some number => { port with abandoned := number :: port.abandoned }
      | none => port
    caller.conclude left now (executor.expire execution)
  else
    { caller := waiting
      executor := executor
      port := port }

def ask (caller : Caller) (executor : Executor) (port : Port σ) (now : Nat)
    (execution : Execution) (retries : UInt32) : Turned σ :=
  match port.submit execution.message with
  | (port, .ok number) =>
      caller.wait executor port now execution
        (.asking execution retries number)
  | (port, .error failure) =>
      let (executor, outcome) := executor.receive execution (.error failure)
      caller.conclude port now (executor.finish execution retries outcome)

def settle (caller : Caller) (executor : Executor) (port : Port σ)
    (now : Nat) (execution : Execution) (retries : UInt32)
    (outcome : Except Failure Reading) : Turned σ :=
  if isRetryable outcome && retries < executor.policy.maxRetries then
    if executor.policy.delay = 0 then
      caller.ask executor port now execution (retries + 1)
    else
      caller.wait executor port now execution
        (.pausing execution (retries + 1) (now + executor.policy.delay))
  else caller.conclude port now (executor.finish execution retries outcome)

def begin (caller : Caller) (executor : Executor) (port : Port σ)
    (now : Nat) : Turned σ :=
  match caller.errand with
  | .message request =>
      let (port, submitted) := port.submit request
      let stage : Stage :=
        match submitted with
        | .ok number => .sent number
        | .error failure => .answered (.error failure) now
      { caller := { caller with stage := stage }
        executor := executor
        port := port }
  | .function function request =>
      match executor.start now function request with
      | (executor, .ok execution) =>
          caller.ask executor port now execution 0
      | (executor, .error failure) =>
          caller.conclude port now (executor, .error failure)

def turn (caller : Caller) (executor : Executor) (port : Port σ)
    (now : Nat) : Turned σ :=
  let unchanged : Turned σ :=
    { caller := caller
      executor := executor
      port := port }
  match caller.stage with
  | .fresh => caller.begin executor port now
  | .sent number =>
      match port.answer? number with
      | some outcome =>
          { unchanged with
            caller := { caller with stage := .answered outcome now } }
      | none => unchanged
  | .asking execution retries number =>
      match port.answer? number with
      | some outcome =>
          let (executor, outcome) := executor.receive execution outcome
          caller.settle executor port now execution retries outcome
      | none =>
          caller.wait executor port now execution
            (.asking execution retries number)
  | .pausing execution retries wake =>
      if wake ≤ now then caller.ask executor port now execution retries
      else
        caller.wait executor port now execution
          (.pausing execution retries wake)
  | _ => unchanged

/-- Let a caller go away.  An answer to its command then reaches nobody. -/
def leave (caller : Caller) (port : Port σ) : Caller × Port σ :=
  if caller.isOver then (caller, port)
  else
    ({ caller with stage := .gone },
      match caller.number? with
      | some number => { port with abandoned := number :: port.abandoned }
      | none => port)

end Caller

end MeterLine.Bench
