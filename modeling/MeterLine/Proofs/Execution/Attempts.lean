import MeterLine.Executor.Turns
import MeterLine.Proofs.Sharing.Frames

/-!
# Attempts of an execution

An execution repeats its request until an outcome of the port settles it, or no
retry is left.  What an outcome is worth is told by `Request.worth`: only a
damaged and a foreign reply are worth another attempt.  The number of attempts
and the result then depend on nothing but the first outcome that settles the
execution, as long as the time lasts.
-/

namespace MeterLine

/-- What a request makes of an outcome of the port. -/
def Request.worth (request : Request) (check : FrameCheck)
    (function : MeterFunction) :
    Except Failure Bytes → Except Failure Reading
  | .error failure => .error failure
  | .ok reply =>
      let kept := reply.take 9
      if check.intact kept = false then .error .checkMismatch
      else if kept.length < 2 ∨ kept[0]? ≠ some request.device then
        .error (.deviceMismatch request.device (kept[0]?.getD 0))
      else function.decode kept

/-- Outcomes after which the request is repeated. -/
inductive Repeated : Except Failure Reading → Prop where
  | damaged : Repeated (.error .checkMismatch)
  | foreign (expected actual : UInt8) :
      Repeated (.error (.deviceMismatch expected actual))

theorem isRetryable_iff {outcome : Except Failure Reading} :
    isRetryable outcome = true ↔ Repeated outcome := by
  constructor
  · intro retryable
    cases outcome with
    | ok reading => cases retryable
    | error failure =>
        cases failure <;> first | exact .damaged | exact .foreign _ _ |
          cases retryable
  · intro repeated
    cases repeated with
    | damaged => rfl
    | foreign expected actual => rfl

instance (outcome : Except Failure Reading) : Decidable (Repeated outcome) :=
  decidable_of_iff _ isRetryable_iff

theorem isRetryable_eq_false_iff {outcome : Except Failure Reading} :
    isRetryable outcome = false ↔ ¬Repeated outcome := by
  rw [← isRetryable_iff, Bool.not_eq_true]

namespace Request

theorem isAnsweredBy_eq_false_iff (request : Request) (reply : Bytes) :
    request.isAnsweredBy reply = false ↔
      reply.length < 2 ∨ reply[0]? ≠ some request.device := by
  rw [isAnsweredBy, List.head?_eq_getElem?, Bool.and_eq_false_iff,
    decide_eq_false_iff_not, beq_eq_false_iff_ne, Nat.not_lt,
    Nat.lt_succ_iff]

theorem judge_eq_worth (request : Request) (check : FrameCheck)
    (function : MeterFunction) (reply : Bytes) :
    request.judge check function reply =
      request.worth check function (.ok reply) := by
  have first : (reply.take 9).headD 0 = (reply.take 9)[0]?.getD 0 := by
    rw [List.headD_eq_head?_getD, List.head?_eq_getElem?]
  simp only [judge, worth, MeterFunction.replySize,
    isAnsweredBy_eq_false_iff, first]

end Request

namespace Executor

theorem receive_outcome (executor : Executor) (execution : Execution)
    (outcome : Except Failure Bytes) :
    (executor.receive execution outcome).2 =
      execution.request.worth executor.check execution.function outcome := by
  cases outcome with
  | ok reply => exact execution.request.judge_eq_worth _ _ reply
  | error failure => rfl

theorem receive_settings (executor : Executor) (execution : Execution)
    (outcome : Except Failure Bytes) :
    (executor.receive execution outcome).1.check = executor.check ∧
      (executor.receive execution outcome).1.policy = executor.policy := by
  cases outcome with
  | ok reply => exact ⟨rfl, rfl⟩
  | error failure => exact ⟨rfl, rfl⟩

end Executor

theorem giveUp_of_settled (retries : UInt32)
    {outcome : Except Failure Reading} (settled : ¬Repeated outcome) :
    giveUp retries outcome = outcome := by
  cases outcome with
  | ok reading => rfl
  | error failure =>
      have once : failure.retryable = false :=
        isRetryable_eq_false_iff.mpr settled
      simp [giveUp, once]

theorem giveUp_of_repeated (retries : UInt32)
    {outcome : Except Failure Reading} (repeated : Repeated outcome) :
    ∃ failure, outcome = .error failure ∧
      giveUp retries outcome =
        .error (.retriesExhausted (retries + 1) failure) := by
  cases repeated with
  | damaged => exact ⟨_, rfl, rfl⟩
  | foreign expected actual => exact ⟨_, rfl, rfl⟩

namespace RetryPolicy

/-- How attempts end that may be made as often as a policy allows. -/
def conclude (policy : RetryPolicy) (outcome : Except Failure Reading) :
    Except Failure Reading :=
  giveUp policy.maxRetries outcome

/-- The retries of a policy are part behind an attempt and part left. -/
def Splits (policy : RetryPolicy) (left : Nat) (retries : UInt32) : Prop :=
  retries.toNat + left = policy.maxRetries.toNat

variable {policy : RetryPolicy} {left : Nat} {retries : UInt32}

theorem splits_zero (policy : RetryPolicy) :
    policy.Splits policy.maxRetries.toNat 0 :=
  Nat.zero_add _

theorem Splits.again (splits : policy.Splits (left + 1) retries) :
    policy.Splits left (retries + 1) := by
  have bound := policy.maxRetries.toNat_lt
  unfold Splits at splits ⊢
  rw [UInt32.toNat_add, UInt32.toNat_one,
    Nat.mod_eq_of_lt (by omega)]
  omega

theorem Splits.last (splits : policy.Splits 0 retries) :
    retries = policy.maxRetries :=
  UInt32.toNat_inj.mp splits

theorem Splits.giveUp_eq (splits : policy.Splits left retries)
    {outcome : Except Failure Reading}
    (final : left = 0 ∨ ¬Repeated outcome) :
    giveUp retries outcome = policy.conclude outcome := by
  rcases final with rfl | settled
  · rw [conclude, splits.last]
  · rw [conclude, giveUp_of_settled _ settled, giveUp_of_settled _ settled]

end RetryPolicy

namespace TurnPort

def turn (port : TurnPort) (index : Nat) : Turn :=
  port.turns.getD index noTurn

/-- The time from the first request to the end of the turn at an index, with a
pause before every other request; none if a turn never ends. -/
def endOf (port : TurnPort) (pause : Nat) : Nat → Option Nat
  | 0 => (port.turn 0).delay
  | index + 1 => do
      let before ← port.endOf pause index
      let delay ← (port.turn (index + 1)).delay
      some (before + pause + delay)

/-- The turn at an index is over before the deadline of a policy has passed. -/
def InTime (port : TurnPort) (policy : RetryPolicy) (index : Nat) : Prop :=
  ∃ time, port.endOf policy.delay index = some time ∧ time ≤ policy.deadline

def taken (port : TurnPort) (message : Bytes) : TurnPort :=
  (port.take message).1

theorem take_eq (port : TurnPort) (message : Bytes) :
    port.take message = (port.taken message, port.turn 0) := by
  simp only [taken, take, turn]
  cases port.turns <;> rfl

@[simp] theorem taken_requests (port : TurnPort) (message : Bytes) :
    (port.taken message).requests = port.requests ++ [message] := rfl

@[simp] theorem taken_turn (port : TurnPort) (message : Bytes)
    (index : Nat) :
    (port.taken message).turn index = port.turn (index + 1) := by
  simp only [taken, take, turn]
  cases port.turns <;> simp

/-- The end of a later turn, reckoned from the second request. -/
theorem endOf_succ {port : TurnPort} (message : Bytes) {pause index : Nat} :
    ∀ {time : Nat}, port.endOf pause (index + 1) = some time →
      ∃ first rest, (port.turn 0).delay = some first ∧
        (port.taken message).endOf pause index = some rest ∧
        time = first + pause + rest := by
  induction index with
  | zero =>
      intro time ends
      simp only [endOf, Option.bind_eq_bind, Option.bind_eq_some_iff,
        Option.some.injEq] at ends
      obtain ⟨first, began, delay, ended, rfl⟩ := ends
      exact ⟨first, delay, began, by simp [endOf, ended], rfl⟩
  | succ index induction =>
      intro time ends
      rw [endOf] at ends
      simp only [Option.bind_eq_bind, Option.bind_eq_some_iff,
        Option.some.injEq] at ends
      obtain ⟨before, earlier, delay, ended, rfl⟩ := ends
      obtain ⟨first, rest, began, later, rfl⟩ := induction earlier
      refine ⟨first, rest + pause + delay, began, ?_, by omega⟩
      simp [endOf, later, ended]

end TurnPort

namespace Execution

variable {execution : Execution} {executor : Executor} {port : TurnPort}
  {now delay left : Nat} {retries : UInt32}

theorem play_last (ended : (port.turn 0).delay = some delay)
    (timely : now + delay ≤ execution.deadline)
    (last : left = 0 ∨ ¬Repeated (execution.request.worth executor.check
      execution.function (port.turn 0).outcome)) :
    execution.play left retries executor port now =
      execution.finishAt retries
        (executor.receive execution (port.turn 0).outcome).1
        (port.taken execution.message) (now + delay)
        (execution.request.worth executor.check execution.function
          (port.turn 0).outcome) := by
  have early : ¬execution.deadline < now + delay := Nat.not_lt.mpr timely
  rw [← Executor.receive_outcome] at last ⊢
  cases left with
  | zero => simp only [play, TurnPort.take_eq, ended, if_neg early]
  | succ left =>
      have settled := isRetryable_eq_false_iff.mpr
        (last.resolve_left (Nat.succ_ne_zero left))
      simp only [play, TurnPort.take_eq, ended, if_neg early, settled,
        if_true]

/-- An attempt after which the request is repeated. -/
theorem play_again (ended : (port.turn 0).delay = some delay)
    (timely : now + delay + executor.policy.delay ≤ execution.deadline)
    (repeated : Repeated (execution.request.worth executor.check
      execution.function (port.turn 0).outcome)) :
    execution.play (left + 1) retries executor port now =
      execution.play left (retries + 1)
        (executor.receive execution (port.turn 0).outcome).1
        (port.taken execution.message)
        (now + delay + executor.policy.delay) := by
  have early : ¬execution.deadline < now + delay := by omega
  rw [← Executor.receive_outcome] at repeated
  have policy := (executor.receive_settings execution (port.turn 0).outcome).2
  have retryable := isRetryable_iff.mpr repeated
  simp only [play, TurnPort.take_eq, ended, if_neg early, retryable, policy,
    Bool.true_eq_false, if_false, if_neg (Nat.not_lt.mpr timely)]

/-- The first attempt that settles the execution ends it, or the last one
does. -/
theorem play_concludes {last : Nat} :
    ∀ {left : Nat} {retries : UInt32} {executor : Executor} {port : TurnPort}
      {now time : Nat},
      executor.policy.Splits left retries →
      last ≤ left →
      (∀ index < last, Repeated (execution.request.worth executor.check
        execution.function (port.turn index).outcome)) →
      (last = left ∨ ¬Repeated (execution.request.worth executor.check
        execution.function (port.turn last).outcome)) →
      port.endOf executor.policy.delay last = some time →
      now + time ≤ execution.deadline →
        (execution.play left retries executor port now).outcome =
            executor.policy.conclude (execution.request.worth executor.check
              execution.function (port.turn last).outcome) ∧
          (execution.play left retries executor port now).port.requests =
            port.requests ++ List.replicate (last + 1) execution.message := by
  -- Every attempt before `last` is repeated, so each one takes a turn of the
  -- port and moves one retry from those left to those behind.
  induction last with
  | zero =>
      intro left retries executor port now time splits _ _ final ends timely
      have final := final.imp_left Eq.symm
      rw [play_last ends timely final]
      exact ⟨splits.giveUp_eq final, rfl⟩
  | succ last induction =>
      intro left retries executor port now time splits bound repeats final
        ends timely
      obtain ⟨first, rest, began, later, rfl⟩ :=
        TurnPort.endOf_succ execution.message ends
      obtain ⟨check, policy⟩ :=
        executor.receive_settings execution (port.turn 0).outcome
      cases left with
      | zero => exact (Nat.not_succ_le_zero last bound).elim
      | succ left =>
          rw [play_again began (by omega) (repeats 0 (Nat.succ_pos last))]
          have concluded := @induction left (retries + 1)
            (executor.receive execution (port.turn 0).outcome).1
            (port.taken execution.message)
            (now + first + executor.policy.delay) rest
          simp only [check, policy, TurnPort.taken_turn,
            TurnPort.taken_requests] at concluded
          obtain ⟨outcome, requests⟩ := concluded splits.again
            (Nat.le_of_succ_le_succ bound)
            (fun index before =>
              repeats (index + 1) (Nat.succ_lt_succ before))
            (final.imp_left Nat.succ.inj) later (by omega)
          refine ⟨outcome, ?_⟩
          rw [requests, List.append_assoc, List.replicate_succ (n := last + 1)]
          rfl

/-- Whatever the port does, every request is the same frame, and no execution
asks more often than it may. -/
theorem play_requests (execution : Execution) (left : Nat) :
    ∀ (retries : UInt32) (executor : Executor) (port : TurnPort) (now : Nat),
      ∃ count, count ≤ left ∧
        (execution.play left retries executor port now).port.requests =
          port.requests ++ List.replicate (count + 1) execution.message := by
  induction left with
  | zero =>
      intro retries executor port now
      refine ⟨0, Nat.le_refl 0, ?_⟩
      simp only [play, TurnPort.take_eq]
      split
      · rfl
      · split <;> rfl
  | succ left induction =>
      intro retries executor port now
      have once : ∃ count, count ≤ left + 1 ∧
          (port.taken execution.message).requests =
            port.requests ++
              List.replicate (count + 1) execution.message :=
        ⟨0, Nat.zero_le _, rfl⟩
      simp only [play, TurnPort.take_eq]
      split
      · exact once
      · split
        · exact once
        · split
          · exact once
          · split
            · exact once
            · obtain ⟨count, bound, requests⟩ := induction (retries + 1)
                (executor.receive execution (port.turn 0).outcome).1
                (port.taken execution.message) _
              refine ⟨count + 1, Nat.succ_le_succ bound, ?_⟩
              rw [requests, TurnPort.taken_requests, List.append_assoc,
                List.replicate_succ (n := count + 1)]
              rfl

end Execution

/-- The readings that a function makes of replies of a meter: a state check
gives the address of the meter, everything else a measurement. -/
def MeterFunction.Gives (function : MeterFunction) (device : UInt8)
    (reading : Reading) : Prop :=
  match function with
  | .checkState => reading = .octet device
  | _ => ∃ value, reading = .measured value

namespace Request

/-- A reading is decoded from a kept reply that passed both tests. -/
theorem worth_eq_ok {request : Request} {check : FrameCheck}
    {function : MeterFunction} {outcome : Except Failure Bytes}
    {reading : Reading}
    (success : request.worth check function outcome = .ok reading) :
    ∃ reply, outcome = .ok reply ∧ check.intact (reply.take 9) = true ∧
      (reply.take 9)[0]? = some request.device ∧
      function.decode (reply.take 9) = .ok reading := by
  cases outcome with
  | error failure => cases success
  | ok reply =>
      simp only [worth] at success
      split at success
      · cases success
      · split at success
        · cases success
        case isFalse whole answered =>
            refine ⟨reply, rfl, Bool.not_eq_false _ ▸ whole, ?_, success⟩
            simpa using (not_or.mp answered).2

theorem worth_gives {request : Request} {check : FrameCheck}
    {function : MeterFunction} {outcome : Except Failure Bytes}
    {reading : Reading}
    (success : request.worth check function outcome = .ok reading) :
    function.Gives request.device reading := by
  obtain ⟨reply, _, _, first, decoded⟩ := worth_eq_ok success
  generalize reply.take 9 = kept at first decoded
  have scaled : ∀ {scale : Nat} {field : Except Failure Int},
      field.map (MeterFunction.scaled scale) = .ok reading →
        ∃ value, reading = .measured value := by
    intro scale field measured
    cases field with
    | error failure => cases measured
    | ok number =>
        cases measured
        exact ⟨_, rfl⟩
  cases function with
  | checkState =>
      cases kept with
      | nil => cases first
      | cons octet others =>
          cases first
          cases decoded
          rfl
  | readTotalPower => exact scaled decoded
  | readCurrentPower => exact scaled decoded
  | readCurrentVoltage => exact scaled decoded
  | readCurrentAmperage => exact scaled decoded

end Request

namespace Execution

theorem finishAt_reads {execution : Execution} {executor : Executor}
    {port : TurnPort} {now : Nat} {retries : UInt32}
    {outcome : Except Failure Bytes} {reading : Reading}
    (success : (execution.finishAt retries
      (executor.receive execution outcome).1 port now
      (executor.receive execution outcome).2).outcome = .ok reading) :
    execution.request.worth executor.check execution.function outcome =
      .ok reading := by
  rw [Executor.receive_outcome] at success
  by_cases repeated : Repeated (execution.request.worth executor.check
    execution.function outcome)
  · obtain ⟨failure, _, concluded⟩ := giveUp_of_repeated retries repeated
    rw [finishAt, Executor.finish, concluded] at success
    cases success
  · rw [finishAt, Executor.finish, giveUp_of_settled _ repeated] at success
    exact success

theorem play_reads (execution : Execution) {reading : Reading}
    (left : Nat) :
    ∀ {retries : UInt32} {executor : Executor} {port : TurnPort} {now : Nat},
      (execution.play left retries executor port now).outcome =
          .ok reading →
        ∃ index, execution.request.worth executor.check execution.function
          (port.turn index).outcome = .ok reading := by
  induction left with
  | zero =>
      intro retries executor port now success
      simp only [play, TurnPort.take_eq] at success
      split at success
      · cases success
      · split at success
        · cases success
        · exact ⟨0, finishAt_reads success⟩
  | succ left induction =>
      intro retries executor port now success
      simp only [play, TurnPort.take_eq] at success
      split at success
      · cases success
      · split at success
        · cases success
        · split at success
          · exact ⟨0, finishAt_reads success⟩
          · split at success
            · cases success
            · obtain ⟨index, later⟩ := induction success
              rw [(executor.receive_settings _ _).1,
                TurnPort.taken_turn] at later
              exact ⟨index + 1, later⟩

end Execution

namespace Executor

variable {executor : Executor} {port : TurnPort} {now : Nat}
  {function : MeterFunction} {request : Request}

theorem execute_of_refusal {failure : Failure}
    (refused : request.message executor.check.stamp = .error failure) :
    (executor.execute port now function request).outcome = .error failure ∧
      (executor.execute port now function request).port = port := by
  simp [execute, start, refused]

theorem execute_of_message (port : TurnPort) (now : Nat)
    (function : MeterFunction) {message : Bytes}
    (framed : request.message executor.check.stamp = .ok message) :
    ∃ (counted : Executor) (execution : Execution),
      counted.check = executor.check ∧ counted.policy = executor.policy ∧
        execution.function = function ∧ execution.request = request ∧
        execution.message = message ∧
        execution.deadline = now + executor.policy.deadline ∧
        executor.execute port now function request =
          execution.play executor.policy.maxRetries.toNat 0 counted port
            now := by
  refine ⟨{ executor with begun := executor.begun + 1 },
    { function := function
      request := request
      message := message
      context := s!"[{executor.begun + 1}] {request.label}"
      deadline := now + executor.policy.deadline },
    rfl, rfl, rfl, rfl, rfl, rfl, ?_⟩
  simp only [execute, start, framed]

theorem execute_reads {reading : Reading}
    (success : (executor.execute port now function request).outcome =
      .ok reading) :
    ∃ index, request.worth executor.check function (port.turn index).outcome =
      .ok reading := by
  cases framed : request.message executor.check.stamp with
  | error failure =>
      rw [(execute_of_refusal framed).1] at success
      cases success
  | ok message =>
      obtain ⟨counted, execution, check, _, rfl, rfl, _, _, played⟩ :=
        execute_of_message port now function framed
      rw [played] at success
      rw [← check]
      exact execution.play_reads _ success

theorem run_gives (function : MeterFunction) {device : UInt8}
    {register : Register} {reading : Reading}
    (success : (executor.run port now function device register).outcome =
      .ok reading) : function.Gives device reading := by
  unfold run Request.ofFunction at success
  by_cases admitted : function.admits register = true
  · simp only [admitted, if_true] at success
    obtain ⟨index, read⟩ := execute_reads success
    exact Request.worth_gives read
  · simp only [admitted] at success
    cases success

theorem execute_requests {message : Bytes}
    (framed : request.message executor.check.stamp = .ok message) :
    ∃ count, count ≤ executor.policy.maxRetries.toNat ∧
      (executor.execute port now function request).port.requests =
        port.requests ++ List.replicate (count + 1) message := by
  obtain ⟨counted, execution, _, _, _, _, rfl, _, played⟩ :=
    execute_of_message port now function framed
  rw [played]
  exact execution.play_requests _ 0 counted port now

theorem execute_concludes (now : Nat) {message : Bytes}
    (framed : request.message executor.check.stamp = .ok message)
    {last : Nat} (bound : last ≤ executor.policy.maxRetries.toNat)
    (repeats : ∀ index < last, Repeated (request.worth executor.check
      function (port.turn index).outcome))
    (final : last = executor.policy.maxRetries.toNat ∨
      ¬Repeated (request.worth executor.check function
        (port.turn last).outcome))
    (inTime : port.InTime executor.policy last) :
    (executor.execute port now function request).outcome =
        executor.policy.conclude (request.worth executor.check function
          (port.turn last).outcome) ∧
      (executor.execute port now function request).port.requests =
        port.requests ++ List.replicate (last + 1) message := by
  obtain ⟨counted, execution, check, policy, rfl, rfl, rfl, deadline,
    played⟩ := execute_of_message port now function framed
  obtain ⟨time, ends, timely⟩ := inTime
  have concluded := @Execution.play_concludes execution last
    executor.policy.maxRetries.toNat 0 counted port now time
  rw [check, policy, ← played] at concluded
  exact concluded executor.policy.splits_zero bound repeats final ends
    (by omega)

theorem octet_checkState {device value : UInt8}
    (checked : (executor.checkState port now device).octet = .ok value) :
    value = device := by
  rw [Executed.octet] at checked
  cases outcome : (executor.checkState port now device).outcome with
  | error failure =>
      rw [outcome] at checked
      cases checked
  | ok reading =>
      obtain rfl : reading = .octet device := run_gives _ outcome
      rw [outcome] at checked
      cases checked
      rfl

/-- An execution sends the frame of its request and nothing else, and returns
what the first outcome that settles it is worth; if none of the allowed
attempts settles it, it reports what the last one came to.  A state check
returns only the address that was asked for, and the conversions of typed reads
never fail. -/
theorem first_settled_attempt_decides (executor : Executor)
    (port : TurnPort) (now : Nat) (function : MeterFunction)
    (request : Request) :
    let executed := executor.execute port now function request
    let worth := fun index =>
      request.worth executor.check function (port.turn index).outcome
    let retries := executor.policy.maxRetries.toNat
    (∀ failure, request.message executor.check.stamp = .error failure →
      executed.outcome = .error failure ∧ executed.port = port) ∧
    (∀ message, request.message executor.check.stamp = .ok message →
      (∃ count, count ≤ retries ∧ executed.port.requests =
        port.requests ++ List.replicate (count + 1) message) ∧
      (∀ last ≤ retries, (∀ index < last, Repeated (worth index)) →
        ¬Repeated (worth last) → port.InTime executor.policy last →
          executed.outcome = worth last ∧
            executed.port.requests =
              port.requests ++ List.replicate (last + 1) message) ∧
      ((∀ index ≤ retries, Repeated (worth index)) →
        port.InTime executor.policy retries →
          ∃ attempts failure, worth retries = .error failure ∧
            executed.outcome = .error (.retriesExhausted attempts failure) ∧
            executed.port.requests =
              port.requests ++ List.replicate (retries + 1) message)) ∧
    (∀ device value, (executor.checkState port now device).octet = .ok value →
      value = device) ∧
    (∀ device reading,
      (executor.checkState port now device).outcome = .ok reading →
        ∃ value, reading.expectOctet = .ok value) ∧
    ∀ device register, ∀ read ∈
      [executor.readTotalPower port now device register,
        executor.readCurrentPower port now device,
        executor.readCurrentVoltage port now device register,
        executor.readCurrentAmperage port now device register],
      ∀ reading, read.outcome = .ok reading →
        ∃ value, reading.expectSingle = .ok value := by
  intro executed worth retries
  refine ⟨fun failure refused => execute_of_refusal refused, ?_, ?_, ?_, ?_⟩
  · intro message framed
    refine ⟨execute_requests framed, ?_, ?_⟩
    · intro last bound repeats settled inTime
      have concluded := execute_concludes now framed bound repeats
        (Or.inr settled) inTime
      rw [RetryPolicy.conclude, giveUp_of_settled _ settled] at concluded
      exact concluded
    · intro repeats inTime
      obtain ⟨failure, last, exhausted⟩ :=
        giveUp_of_repeated executor.policy.maxRetries
          (repeats retries (Nat.le_refl retries))
      have concluded := execute_concludes now framed (Nat.le_refl retries)
        (fun index before => repeats index (Nat.le_of_lt before))
        (Or.inl rfl) inTime
      rw [RetryPolicy.conclude, exhausted] at concluded
      exact ⟨_, failure, last, concluded⟩
  · intro device value checked
    exact octet_checkState checked
  · intro device reading outcome
    obtain rfl : reading = .octet device := run_gives _ outcome
    exact ⟨device, rfl⟩
  · intro device register read member reading outcome
    simp only [List.mem_cons, List.not_mem_nil, or_false] at member
    have measured : ∃ value, reading = .measured value := by
      rcases member with rfl | rfl | rfl | rfl
      · exact run_gives .readTotalPower outcome
      · exact run_gives .readCurrentPower outcome
      · exact run_gives .readCurrentVoltage outcome
      · exact run_gives .readCurrentAmperage outcome
    obtain ⟨value, rfl⟩ := measured
    exact ⟨value, rfl⟩

end Executor

namespace NoisyLine

def port : TurnPort :=
  { name := "noisy"
    running := true
    turns :=
      [List.replicate 256 0x55, [2, 3, 4, 0, 0, 0, 1, 8, 243],
        [1, 3, 4, 0, 1, 0, 255, 235, 179]].map fun reply =>
          { delay := some 40
            outcome := .ok reply }
    requests := [] }

def executor : Executor :=
  Executor.fresh .crc RetryPolicy.standard

end NoisyLine

theorem Executor.power_read_at_third_attempt :
    let executed := NoisyLine.executor.execute NoisyLine.port 0
      .readCurrentPower (Request.read 1 .currentPower)
    executed.outcome.toOption.map Reading.toText = some "65791" ∧
      executed.port.requests =
        List.replicate 3 (Request.frame 1 .currentPower) := by
  have general := first_settled_attempt_decides NoisyLine.executor
    NoisyLine.port 0 .readCurrentPower (Request.read 1 .currentPower)
  obtain ⟨_, sent, _⟩ := general
  obtain ⟨_, settles, _⟩ := sent _ (Request.message_read 1 .currentPower)
  obtain ⟨outcome, requests⟩ := settles 2 (by decide) (by decide +kernel)
    (by decide +kernel) ⟨320, rfl, by decide⟩
  refine ⟨?_, requests⟩
  rw [outcome]
  decide +kernel

end MeterLine
