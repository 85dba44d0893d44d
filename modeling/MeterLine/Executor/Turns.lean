import MeterLine.Executor

/-!
# Executions against given turns

A port may be given by its turns: what it makes of the first request, of the
second, and so on, and how long each takes.  Against such a port an execution
is a function of its starting time.  An attempt that ends exactly when time
runs out still counts; one that would end later does not.
-/

namespace MeterLine

/-- What a port makes of one request.  The outcome comes after `delay`
milliseconds, or never. -/
structure Turn where
  delay : Option Nat
  outcome : Except Failure Bytes

/-- A port given by its turns. -/
structure TurnPort where
  name : String
  running : Bool
  turns : List Turn
  requests : List Bytes

namespace TurnPort

def noTurn : Turn :=
  { delay := some 0
    outcome := .error (.connection "no reply prepared") }

def take (port : TurnPort) (message : Bytes) : TurnPort × Turn :=
  ({ port with
      turns := port.turns.tail
      requests := port.requests ++ [message] },
    port.turns.headD noTurn)

end TurnPort

/-- An executor and its port at an instant, and what came of an execution. -/
structure Executed where
  executor : Executor
  port : TurnPort
  now : Nat
  outcome : Except Failure Reading

namespace Executed

def single (executed : Executed) : Except Failure Single :=
  executed.outcome.bind Reading.expectSingle

def octet (executed : Executed) : Except Failure UInt8 :=
  executed.outcome.bind Reading.expectOctet

end Executed

namespace Execution

def expireAt (execution : Execution) (executor : Executor)
    (port : TurnPort) : Executed :=
  let (executor, outcome) := executor.expire execution
  { executor := executor
    port := port
    now := execution.deadline
    outcome := outcome }

def finishAt (execution : Execution) (retries : UInt32) (executor : Executor)
    (port : TurnPort) (now : Nat) (outcome : Except Failure Reading) :
    Executed :=
  let (executor, outcome) := executor.finish execution retries outcome
  { executor := executor
    port := port
    now := now
    outcome := outcome }

/-- Make an attempt, with so many retries left after it and so many behind. -/
def play (execution : Execution) :
    Nat → UInt32 → Executor → TurnPort → Nat → Executed
  | 0, retries, executor, port, now =>
      let (port, turn) := port.take execution.message
      match turn.delay with
      | none => execution.expireAt executor port
      | some delay =>
          if execution.deadline < now + delay then
            execution.expireAt executor port
          else
            let (executor, outcome) :=
              executor.receive execution turn.outcome
            execution.finishAt retries executor port (now + delay) outcome
  | left + 1, retries, executor, port, now =>
      let (port, turn) := port.take execution.message
      match turn.delay with
      | none => execution.expireAt executor port
      | some delay =>
          if execution.deadline < now + delay then
            execution.expireAt executor port
          else
            let (executor, outcome) :=
              executor.receive execution turn.outcome
            if isRetryable outcome = false then
              execution.finishAt retries executor port (now + delay) outcome
            else
              let resume := now + delay + executor.policy.delay
              if execution.deadline < resume then
                execution.expireAt executor port
              else execution.play left (retries + 1) executor port resume

end Execution

namespace Executor

def execute (executor : Executor) (port : TurnPort) (now : Nat)
    (function : MeterFunction) (request : Request) : Executed :=
  match executor.start now function request with
  | (executor, .ok execution) =>
      execution.play executor.policy.maxRetries.toNat 0 executor port now
  | (executor, .error failure) =>
      { executor := executor
        port := port
        now := now
        outcome := .error failure }

/-- Execute a function for a register.  A register that the function does not
admit leaves everything as it is. -/
def run (executor : Executor) (port : TurnPort) (now : Nat)
    (function : MeterFunction) (device : UInt8) (register : Register) :
    Executed :=
  match Request.ofFunction function device register with
  | .ok request => executor.execute port now function request
  | .error failure =>
      { executor := executor
        port := port
        now := now
        outcome := .error failure }

def readTotalPower (executor : Executor) (port : TurnPort) (now : Nat)
    (device : UInt8) (register : Register) : Executed :=
  executor.run port now .readTotalPower device register

def readCurrentPower (executor : Executor) (port : TurnPort) (now : Nat)
    (device : UInt8) : Executed :=
  executor.run port now .readCurrentPower device .currentPower

def readCurrentVoltage (executor : Executor) (port : TurnPort) (now : Nat)
    (device : UInt8) (register : Register) : Executed :=
  executor.run port now .readCurrentVoltage device register

def readCurrentAmperage (executor : Executor) (port : TurnPort) (now : Nat)
    (device : UInt8) (register : Register) : Executed :=
  executor.run port now .readCurrentAmperage device register

def checkState (executor : Executor) (port : TurnPort) (now : Nat)
    (device : UInt8) : Executed :=
  executor.run port now .checkState device .deviceId

end Executor

end MeterLine
