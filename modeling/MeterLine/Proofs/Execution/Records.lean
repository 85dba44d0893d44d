import MeterLine.Proofs.Execution.Deadline

/-!
# Records of executions

An executor numbers its executions, keeps totals of them by function, and shows
a log every reply that comes back in time.  Each call adds exactly its own part
to these records, and a call that asks for a register that its function does
not admit adds nothing.  So the records of any calls, one after the other, are
told from the calls and from what the ports made of their requests.
-/

namespace MeterLine

/-- What the log is shown of a request: the reply, if one came by the
deadline. -/
def Asking.payload? (context : String) (message : Bytes) (deadline : Nat)
    (asking : Asking) : Option Payload :=
  match asking.outcomeBy deadline with
  | some (.ok reply) =>
      some
        { context := context
          request := message
          reply := reply.take 9 }
  | _ => none

namespace Execution

variable {execution : Execution} {executor : Executor} {port : TurnPort}
  {now delay left : Nat} {retries : UInt32} {asked : List Asking}
  {executed : Executed}

abbrev payload? (execution : Execution) (asking : Asking) : Option Payload :=
  asking.payload? execution.context execution.message execution.deadline

theorem payload?_of_late
    (late : ∀ delay, (port.turn 0).delay = some delay →
      execution.deadline < now + delay) :
    execution.payload? ⟨now, port.turn 0⟩ = none := by
  have silent : Asking.outcomeBy execution.deadline ⟨now, port.turn 0⟩ =
      none := Asking.outcomeBy_of_late late
  simp only [payload?, Asking.payload?, silent]

theorem receive_timely (executor : Executor) (port : TurnPort)
    (ended : (port.turn 0).delay = some delay)
    (timely : now + delay ≤ execution.deadline) :
    (executor.receive execution (port.turn 0).outcome).1 =
      { executor with
        payloads := executor.payloads ++
          [⟨now, port.turn 0⟩].filterMap execution.payload? } := by
  have came : Asking.outcomeBy execution.deadline ⟨now, port.turn 0⟩ =
      some (port.turn 0).outcome := Asking.outcomeBy_of_timely ended timely
  cases given : (port.turn 0).outcome with
  | ok reply =>
      rw [given] at came
      simp [Executor.receive, Executor.log, Asking.payload?, came,
        MeterFunction.replySize]
  | error failure =>
      rw [given] at came
      simp [Executor.receive, Asking.payload?, came]

/-- An execution shows the log its replies and completes its function once. -/
theorem Plays.records
    (plays : execution.Plays left retries executor port now asked executed) :
    executed.executor =
      { executor with
        payloads := executor.payloads ++ asked.filterMap execution.payload?
        ledger := executor.ledger.completed execution.function.name
          executed.outcome.isOk } := by
  induction plays with
  | hangs left retries executor port now late =>
      rw [List.filterMap_cons_none (payload?_of_late late),
        List.filterMap_nil, List.append_nil]
      rfl
  | settles left retries executor port now delay ended timely =>
      rw [receive_timely executor port ended timely]
      rfl
  | breaksOff left retries executor port now delay ended timely =>
      rw [receive_timely executor port ended timely]
      rfl
  | repeats left retries executor port now delay asked executed ended inTime _ _
      induction =>
      have timely : now + delay ≤ execution.deadline :=
        Nat.le_trans (Nat.le_add_right _ _) inTime
      rw [receive_timely executor port ended timely] at induction
      have parted : (⟨now, port.turn 0⟩ :: asked).filterMap
          execution.payload? = [⟨now, port.turn 0⟩].filterMap
            execution.payload? ++ asked.filterMap execution.payload? := by
        rw [← List.filterMap_append, List.singleton_append]
      rw [induction, parted, ← List.append_assoc]

end Execution

namespace Ledger

theorem function_completed (ledger : Ledger) (name : String)
    (success : Bool) :
    (ledger.completed name success).function name =
      if success then
        { ledger.function name with
          succeeded := (ledger.function name).succeeded + 1 }
      else
        { ledger.function name with
          failed := (ledger.function name).failed + 1 } :=
  find_change _ _ _ _

theorem function_completed_of_ne (ledger : Ledger) {name other : String}
    (success : Bool) (different : other ≠ name) :
    (ledger.completed name success).function other = ledger.function other :=
  find_change_of_ne _ _ _ different

def completedAll (ledger : Ledger) (completions : List (String × Bool)) :
    Ledger :=
  completions.foldl (fun ledger entry => ledger.completed entry.1 entry.2)
    ledger

theorem function_completedAll (name : String)
    (completions : List (String × Bool)) :
    ∀ ledger : Ledger,
      (ledger.completedAll completions).function name =
        { succeeded := (ledger.function name).succeeded +
            UInt64.ofNat (completions.count (name, true))
          failed := (ledger.function name).failed +
            UInt64.ofNat (completions.count (name, false)) } := by
  induction completions with
  | nil =>
      intro ledger
      simp [completedAll]
  | cons entry completions induction =>
      intro ledger
      obtain ⟨other, success⟩ := entry
      have step := induction (ledger.completed other success)
      rw [completedAll, List.foldl_cons, ← completedAll, step]
      by_cases same : name = other
      · subst same
        rw [function_completed]
        cases success <;>
          simp [UInt64.ofNat_add, UInt64.add_assoc, UInt64.add_comm 1]
      · rw [function_completed_of_ne ledger success same]
        have elsewhere : ∀ verdict, (other, success) ≠ (name, verdict) :=
          fun verdict equal => same (congrArg Prod.fst equal).symm
        rw [List.count_cons_of_ne (elsewhere true),
          List.count_cons_of_ne (elsewhere false)]

theorem completions_parted (name : String)
    (completions : List (String × Bool)) :
    completions.count (name, true) + completions.count (name, false) =
      completions.countP (·.1 = name) := by
  induction completions with
  | nil => rfl
  | cons entry completions induction =>
      obtain ⟨other, success⟩ := entry
      by_cases same : other = name
      · subst same
        cases success <;> simp <;> omega
      · simp [same, induction]

end Ledger

namespace Executor

inductive Aim where
  | register (device : UInt8) (register : Register)
  | prepared (request : Request)

structure Call where
  port : TurnPort
  instant : Nat
  function : MeterFunction
  aim : Aim

namespace Call

/-- The function admits the register, or the request is a prepared one. -/
def admitted (call : Call) : Bool :=
  match call.aim with
  | .register _ register => call.function.admits register
  | .prepared _ => true

def request (call : Call) : Request :=
  match call.aim with
  | .register device register => Request.read device register
  | .prepared request => request

def perform (call : Call) (executor : Executor) : Executed :=
  match call.aim with
  | .register device register =>
      executor.run call.port call.instant call.function device register
  | .prepared request =>
      executor.execute call.port call.instant call.function request

variable {call : Call} {executor : Executor}

theorem perform_of_admitted (admitted : call.admitted = true) :
    call.perform executor =
      executor.execute call.port call.instant call.function call.request := by
  obtain ⟨port, instant, function, aim⟩ := call
  cases aim with
  | register device register =>
      simp only [Call.admitted] at admitted
      simp only [perform, run, Request.ofFunction, admitted, if_true, request]
  | prepared request => rfl

/-- A call that asks for a register that its function does not admit leaves
everything as it is. -/
theorem perform_of_refused (refused : call.admitted = false) :
    ∃ device register, call.aim = .register device register ∧
      call.perform executor =
        { executor := executor
          port := call.port
          now := call.instant
          outcome := .error (call.function.refusal register) } := by
  obtain ⟨port, instant, function, aim⟩ := call
  cases aim with
  | register device register =>
      simp only [Call.admitted] at refused
      refine ⟨device, register, rfl, ?_⟩
      simp only [perform, run, Request.ofFunction, refused,
        Bool.false_eq_true, if_false]
  | prepared request => cases refused

end Call

def after (executor : Executor) (calls : List Call) : Executor :=
  calls.foldl (fun executor call => (call.perform executor).executor) executor

/-- The functions that calls complete, and whether they succeed. -/
def completions (executor : Executor) : List Call → List (String × Bool)
  | [] => []
  | call :: calls =>
      let executed := call.perform executor
      let others := executed.executor.completions calls
      if call.admitted then
        (call.function.name, executed.outcome.isOk) :: others
      else others

/-- A request without a frame is numbered and completed. -/
theorem execute_records_of_refusal {executor : Executor} {failure : Failure}
    {request : Request} (port : TurnPort) (now : Nat)
    (function : MeterFunction)
    (refused : request.message executor.check.stamp = .error failure) :
    executor.execute port now function request =
      { executor :=
          { executor with
            begun := executor.begun + 1
            ledger := executor.ledger.completed function.name false }
        port := port
        now := now
        outcome := .error failure } := by
  simp only [execute, start, refused]
  rfl

theorem execute_records_of_message {executor : Executor} {port : TurnPort}
    {now : Nat} {function : MeterFunction} {request : Request}
    {message : Bytes} {asked : List Asking}
    (asks : executor.Asks port now function request message asked) :
    let executed := executor.execute port now function request
    executed.executor =
      { executor with
        begun := executor.begun + 1
        ledger :=
          executor.ledger.completed function.name executed.outcome.isOk
        payloads := executor.payloads ++ asked.filterMap
          (Asking.payload? s!"[{executor.begun + 1}] {request.label}" message
            (now + executor.policy.deadline)) } :=
  Execution.Plays.records asks

/-- Every execution completes its function once, and no call changes the
settings. -/
theorem execute_books (executor : Executor) (port : TurnPort) (now : Nat)
    (function : MeterFunction) (request : Request) :
    let executed := executor.execute port now function request
    executed.executor.check = executor.check ∧
      executed.executor.policy = executor.policy ∧
      executed.executor.begun = executor.begun + 1 ∧
      executed.executor.ledger =
        executor.ledger.completed function.name executed.outcome.isOk := by
  intro executed
  cases framed : request.message executor.check.stamp with
  | error failure =>
      have recorded := execute_records_of_refusal port now function framed
      simp only [executed, recorded, Except.isOk, Except.toBool, and_self]
  | ok message =>
      obtain ⟨asked, asks⟩ := executor.exists_asks port now function framed
      have recorded := execute_records_of_message asks
      simp only [executed, recorded, and_self]

theorem after_books (calls : List Call) :
    ∀ executor : Executor,
      (executor.after calls).check = executor.check ∧
        (executor.after calls).policy = executor.policy ∧
        (executor.after calls).begun =
          executor.begun + UInt64.ofNat (calls.countP Call.admitted) ∧
        (executor.after calls).ledger =
          executor.ledger.completedAll (executor.completions calls) := by
  induction calls with
  | nil => exact fun executor => ⟨rfl, rfl, (UInt64.add_zero _).symm, rfl⟩
  | cons call calls induction =>
      intro executor
      obtain ⟨check, policy, begun, ledger⟩ :=
        induction (call.perform executor).executor
      rw [after, List.foldl_cons, ← after, check, policy, begun, ledger]
      cases admitted : call.admitted with
      | false =>
          obtain ⟨_, register, _, same⟩ := Call.perform_of_refused admitted
          rw [same]
          simp [completions, same, admitted]
      | true =>
          obtain ⟨check, policy, begun, ledger⟩ := executor.execute_books
            call.port call.instant call.function call.request
          rw [← Call.perform_of_admitted admitted] at check policy begun ledger
          rw [check, policy, begun, ledger]
          refine ⟨rfl, rfl, ?_, ?_⟩
          · rw [List.countP_cons_of_pos admitted, Nat.add_comm,
              UInt64.ofNat_add, UInt64.add_assoc]
            rfl
          · simp [completions, admitted, Ledger.completedAll]

theorem after_totals (check : FrameCheck) (policy : RetryPolicy)
    (calls : List Call) (name : String) :
    let completions := (Executor.fresh check policy).completions calls
    let totals :=
      ((Executor.fresh check policy).after calls).ledger.function name
    totals.succeeded = UInt64.ofNat (completions.count (name, true)) ∧
      totals.failed = UInt64.ofNat (completions.count (name, false)) ∧
      (completions.countP (·.1 = name) < 2 ^ 64 →
        totals.succeeded.toNat + totals.failed.toNat =
          completions.countP (·.1 = name)) := by
  intro completions totals
  obtain ⟨_, _, _, ledger⟩ := after_books calls (Executor.fresh check policy)
  have counted : totals =
      { succeeded := 0 + UInt64.ofNat (completions.count (name, true))
        failed := 0 + UInt64.ofNat (completions.count (name, false)) } :=
    (congrArg (Ledger.function · name) ledger).trans
      (Ledger.function_completedAll name completions Ledger.empty)
  rw [UInt64.zero_add, UInt64.zero_add] at counted
  refine ⟨congrArg FunctionTotals.succeeded counted,
    congrArg FunctionTotals.failed counted, ?_⟩
  intro bound
  have parted := Ledger.completions_parted name completions
  have bound : completions.countP (·.1 = name) < UInt64.size := bound
  rw [counted, UInt64.toNat_ofNat_of_lt' (by omega),
    UInt64.toNat_ofNat_of_lt' (by omega), parted]

/-- After any calls upon a new executor, a call for a register that the
function does not admit changes nothing.  Any other call is numbered by the
calls of its kind before it and completes its function once.  If its request
has a frame, it shows the log the beginnings of the replies that its requests
brought in time, in their order.  The totals of a function count its
completions. -/
theorem calls_recorded (check : FrameCheck) (policy : RetryPolicy)
    (calls : List Call) (call : Call) (name : String) :
    let executor := (Executor.fresh check policy).after calls
    let executed := call.perform executor
    let number := UInt64.ofNat (calls.countP Call.admitted + 1)
    let request := call.request
    let label := s!"{request.device.toNat}.{request.register.label}"
    (call.admitted = false → ∃ device register,
      call.aim = .register device register ∧ executed =
        { executor := executor
          port := call.port
          now := call.instant
          outcome := .error (call.function.refusal register) }) ∧
    (call.admitted = true →
      (∀ failure, request.message check.stamp = .error failure →
        executed =
          { executor :=
              { executor with
                begun := number
                ledger := executor.ledger.completed call.function.name false }
            port := call.port
            now := call.instant
            outcome := .error failure }) ∧
      ∀ message, request.message check.stamp = .ok message →
        ∃ asked,
          executor.Asks call.port call.instant call.function request message
            asked ∧
          executed.port.requests =
            call.port.requests ++ List.replicate asked.length message ∧
          asked.map Asking.turn =
            (List.range asked.length).map call.port.turn ∧
          executed.executor =
            { executor with
              begun := number
              ledger := executor.ledger.completed call.function.name
                executed.outcome.isOk
              payloads := executor.payloads ++ asked.filterMap
                (Asking.payload? s!"[{number}] {label}" message
                  (call.instant + policy.deadline)) }) ∧
    let completions := (Executor.fresh check policy).completions calls
    let totals := executor.ledger.function name
    totals.succeeded = UInt64.ofNat (completions.count (name, true)) ∧
      totals.failed = UInt64.ofNat (completions.count (name, false)) ∧
      (completions.countP (·.1 = name) < 2 ^ 64 →
        totals.succeeded.toNat + totals.failed.toNat =
          completions.countP (·.1 = name)) := by
  intro executor executed number request label
  obtain ⟨sameCheck, samePolicy, begun, _⟩ :=
    after_books calls (Executor.fresh check policy)
  have numbered : executor.begun + 1 = number := by
    have begun : executor.begun =
        0 + UInt64.ofNat (calls.countP Call.admitted) := begun
    rw [begun, UInt64.zero_add]
    exact (UInt64.ofNat_add _ 1).symm
  refine ⟨fun refused => Call.perform_of_refused refused, ?_, ?_⟩
  · intro admitted
    have performed : executed = executor.execute call.port call.instant
        call.function request := Call.perform_of_admitted admitted
    have stamped : executor.check.stamp = check.stamp :=
      congrArg FrameCheck.stamp sameCheck
    have limit : policy.deadline = executor.policy.deadline :=
      congrArg RetryPolicy.deadline samePolicy.symm
    rw [performed, ← stamped, ← numbered, limit]
    refine ⟨?_, ?_⟩
    · intro failure refused
      exact execute_records_of_refusal _ _ _ refused
    · intro message framed
      obtain ⟨asked, asks⟩ :=
        executor.exists_asks call.port call.instant call.function framed
      obtain ⟨requests, turns⟩ := Execution.Plays.requests asks
      exact ⟨asked, asks, requests, turns, execute_records_of_message asks⟩
  · exact after_totals check policy calls name

end Executor

namespace NoisyLine

def reading : Executor.Call :=
  { port := port
    instant := 0
    function := .readCurrentPower
    aim := .register 1 .currentPower }

def stray : Executor.Call :=
  { reading with aim := .register 1 .deviceId }

end NoisyLine

open NoisyLine in
/-- A read is the second one behind another and a call that is refused. -/
theorem Executor.second_read_recorded :
    let earlier := (Executor.fresh .crc RetryPolicy.standard).after
      [reading, stray]
    let executed := reading.perform earlier
    (stray.perform earlier).executor = earlier ∧
      executed.executor.begun = 2 ∧
      (∃ asked : List Asking, executed.executor.payloads =
        earlier.payloads ++ asked.filterMap
          (Asking.payload? "[2] 1.CurrentPower(0x86)"
            (Request.frame 1 .currentPower) 5000)) ∧
      (earlier.ledger.function "ReadCurrentPower").succeeded.toNat +
        (earlier.ledger.function "ReadCurrentPower").failed.toNat = 1 := by
  intro earlier executed
  have completed : ((Executor.fresh .crc RetryPolicy.standard).completions
      [reading, stray]).countP (·.1 = "ReadCurrentPower") = 1 := by
    decide +kernel
  obtain ⟨refused, _, _, _, few⟩ := calls_recorded .crc RetryPolicy.standard
    [reading, stray] stray "ReadCurrentPower"
  obtain ⟨_, recorded, _⟩ := calls_recorded .crc RetryPolicy.standard
    [reading, stray] reading "ReadCurrentPower"
  obtain ⟨_, register, _, same⟩ := refused rfl
  obtain ⟨_, framed⟩ := recorded rfl
  obtain ⟨asked, _, _, _, changed⟩ :=
    framed _ (Request.message_read 1 .currentPower)
  have second :
      UInt64.ofNat ([reading, stray].countP Call.admitted + 1) = 2 := by
    decide
  rw [second] at changed
  have unchanged : (stray.perform earlier).executor = earlier := by
    rw [show stray.perform earlier = _ from same]
  have changed : executed.executor = _ := changed
  refine ⟨unchanged, by rw [changed], ⟨asked, by rw [changed]; rfl⟩, ?_⟩
  rw [← completed]
  exact few (completed ▸ by decide)

end MeterLine
