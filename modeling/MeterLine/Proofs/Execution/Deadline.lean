import Mathlib
import MeterLine.Proofs.Execution.Attempts

/-!
# Executions against the clock

An execution asks until an outcome settles it, no retry is left, or its time is
over.  `Plays` lists all that an attempt may come to, together with the
requests that were made and their instants.  Beside it stands the retry loop
that nobody cuts off.  As long as that loop ends before the deadline, the
execution is the loop; otherwise it is the part of the loop that begins before
the deadline, and runs out of time at the deadline.
-/

namespace MeterLine

/-- A request of an execution: when it was made, and the turn that the port
took for it. -/
structure Asking where
  instant : Nat
  turn : Turn

/-- What came back of a request by a deadline, if anything did. -/
def Asking.outcomeBy (deadline : Nat) (asking : Asking) :
    Option (Except Failure Bytes) :=
  asking.turn.delay.bind fun delay =>
    if asking.instant + delay ≤ deadline then some asking.turn.outcome
    else none

theorem Asking.outcomeBy_of_timely {asking : Asking} {deadline delay : Nat}
    (ended : asking.turn.delay = some delay)
    (timely : asking.instant + delay ≤ deadline) :
    asking.outcomeBy deadline = some asking.turn.outcome := by
  simp [outcomeBy, ended, timely]

theorem Asking.outcomeBy_of_late {asking : Asking} {deadline : Nat}
    (late : ∀ delay, asking.turn.delay = some delay →
      deadline < asking.instant + delay) :
    asking.outcomeBy deadline = none := by
  cases ended : asking.turn.delay with
  | none => simp [outcomeBy, ended]
  | some delay => simp [outcomeBy, ended, late delay ended]

theorem TurnPort.turn_taken (port : TurnPort) (message : Bytes) :
    (port.taken message).turn = fun index => port.turn (index + 1) :=
  funext fun index => port.taken_turn message index

theorem TurnPort.timely_or_late (port : TurnPort) (now deadline : Nat) :
    (∃ delay, (port.turn 0).delay = some delay ∧ now + delay ≤ deadline) ∨
      ∀ delay, (port.turn 0).delay = some delay → deadline < now + delay := by
  cases (port.turn 0).delay with
  | none => exact Or.inr nofun
  | some delay =>
      rcases Nat.lt_or_ge deadline (now + delay) with late | timely
      · right
        intro other same
        cases same
        exact late
      · exact Or.inl ⟨delay, rfl, timely⟩

namespace Execution

/-- How the attempts of an execution go from an instant on, with so many
retries left after the first of them and so many behind it: what is asked, and
what it comes to. -/
inductive Plays (execution : Execution) :
    Nat → UInt32 → Executor → TurnPort → Nat → List Asking → Executed →
      Prop where
  | hangs (left : Nat) (retries : UInt32) (executor : Executor)
      (port : TurnPort) (now : Nat) :
      (∀ delay, (port.turn 0).delay = some delay →
        execution.deadline < now + delay) →
      Plays execution left retries executor port now [⟨now, port.turn 0⟩]
        (execution.expireAt executor (port.taken execution.message))
  | settles (left : Nat) (retries : UInt32) (executor : Executor)
      (port : TurnPort) (now delay : Nat) :
      (port.turn 0).delay = some delay →
      now + delay ≤ execution.deadline →
      (left = 0 ∨ ¬Repeated (execution.request.worth executor.check
        execution.function (port.turn 0).outcome)) →
      Plays execution left retries executor port now [⟨now, port.turn 0⟩]
        (execution.finishAt retries
          (executor.receive execution (port.turn 0).outcome).1
          (port.taken execution.message) (now + delay)
          (execution.request.worth executor.check execution.function
            (port.turn 0).outcome))
  /-- There is no time for the pause before the next request. -/
  | breaksOff (left : Nat) (retries : UInt32) (executor : Executor)
      (port : TurnPort) (now delay : Nat) :
      (port.turn 0).delay = some delay →
      now + delay ≤ execution.deadline →
      execution.deadline < now + delay + executor.policy.delay →
      Repeated (execution.request.worth executor.check execution.function
        (port.turn 0).outcome) →
      Plays execution (left + 1) retries executor port now
        [⟨now, port.turn 0⟩]
        (execution.expireAt
          (executor.receive execution (port.turn 0).outcome).1
          (port.taken execution.message))
  | repeats (left : Nat) (retries : UInt32) (executor : Executor)
      (port : TurnPort) (now delay : Nat) (asked : List Asking)
      (executed : Executed) :
      (port.turn 0).delay = some delay →
      now + delay + executor.policy.delay ≤ execution.deadline →
      Repeated (execution.request.worth executor.check execution.function
        (port.turn 0).outcome) →
      Plays execution left (retries + 1)
        (executor.receive execution (port.turn 0).outcome).1
        (port.taken execution.message) (now + delay + executor.policy.delay)
        asked executed →
      Plays execution (left + 1) retries executor port now
        (⟨now, port.turn 0⟩ :: asked) executed

variable {execution : Execution} {executor : Executor} {port : TurnPort}
  {now delay left : Nat} {retries : UInt32} {asked : List Asking}
  {executed : Executed}

theorem play_late
    (late : ∀ delay, (port.turn 0).delay = some delay →
      execution.deadline < now + delay) :
    execution.play left retries executor port now =
      execution.expireAt executor (port.taken execution.message) := by
  cases ended : (port.turn 0).delay with
  | none =>
      cases left <;> simp only [play, TurnPort.take_eq, ended]
  | some delay =>
      cases left <;>
        simp only [play, TurnPort.take_eq, ended, if_pos (late delay ended)]

theorem play_broken (ended : (port.turn 0).delay = some delay)
    (timely : now + delay ≤ execution.deadline)
    (beyond : execution.deadline < now + delay + executor.policy.delay)
    (repeated : Repeated (execution.request.worth executor.check
      execution.function (port.turn 0).outcome)) :
    execution.play (left + 1) retries executor port now =
      execution.expireAt
        (executor.receive execution (port.turn 0).outcome).1
        (port.taken execution.message) := by
  rw [← Executor.receive_outcome] at repeated
  have policy := (executor.receive_settings execution (port.turn 0).outcome).2
  have retryable := isRetryable_iff.mpr repeated
  simp only [play, TurnPort.take_eq, ended, if_neg (Nat.not_lt.mpr timely),
    retryable, policy, Bool.true_eq_false, if_false, if_pos beyond]

/-- Whatever the port does, an execution goes one of these ways. -/
theorem exists_plays (execution : Execution) (left : Nat) :
    ∀ (retries : UInt32) (executor : Executor) (port : TurnPort) (now : Nat),
      ∃ asked, execution.Plays left retries executor port now asked
        (execution.play left retries executor port now) := by
  induction left with
  | zero =>
      intro retries executor port now
      rcases port.timely_or_late now execution.deadline with
        ⟨delay, ended, timely⟩ | late
      · rw [play_last ended timely (Or.inl rfl)]
        exact ⟨_, .settles 0 retries executor port now delay ended timely
          (Or.inl rfl)⟩
      · rw [play_late late]
        exact ⟨_, .hangs 0 retries executor port now late⟩
  | succ left induction =>
      intro retries executor port now
      rcases port.timely_or_late now execution.deadline with
        ⟨delay, ended, timely⟩ | late
      · by_cases repeated : Repeated (execution.request.worth executor.check
            execution.function (port.turn 0).outcome)
        · rcases Nat.lt_or_ge execution.deadline
              (now + delay + executor.policy.delay) with beyond | inTime
          · rw [play_broken ended timely beyond repeated]
            exact ⟨_, .breaksOff left retries executor port now delay ended
              timely beyond repeated⟩
          · obtain ⟨asked, plays⟩ := induction (retries + 1)
              (executor.receive execution (port.turn 0).outcome).1
              (port.taken execution.message)
              (now + delay + executor.policy.delay)
            rw [play_again ended inTime repeated]
            exact ⟨_, .repeats left retries executor port now delay asked _
              ended inTime repeated plays⟩
        · rw [play_last ended timely (Or.inr repeated)]
          exact ⟨_, .settles (left + 1) retries executor port now delay ended
            timely (Or.inr repeated)⟩
      · rw [play_late late]
        exact ⟨_, .hangs (left + 1) retries executor port now late⟩

namespace Plays

/-- Every request is the same frame, and each took the next turn. -/
theorem requests
    (plays : execution.Plays left retries executor port now asked executed) :
    executed.port.requests =
        port.requests ++ List.replicate asked.length execution.message ∧
      asked.map Asking.turn = (List.range asked.length).map port.turn := by
  induction plays with
  | hangs => exact ⟨rfl, rfl⟩
  | settles => exact ⟨rfl, rfl⟩
  | breaksOff => exact ⟨rfl, rfl⟩
  | repeats left retries executor port now delay asked executed _ _ _ _
      induction =>
      obtain ⟨requests, turns⟩ := induction
      rw [TurnPort.turn_taken] at turns
      constructor
      · rw [requests, TurnPort.taken_requests, List.append_assoc,
          List.length_cons, List.replicate_succ]
        rfl
      · rw [List.map_cons, turns, List.length_cons, List.range_succ_eq_map,
          List.map_cons, List.map_map]
        rfl

/-- An execution ends by its deadline, and makes no request behind its end. -/
theorem ends
    (plays : execution.Plays left retries executor port now asked executed)
    (begun : now ≤ execution.deadline) :
    now ≤ executed.now ∧ executed.now ≤ execution.deadline ∧
      ∀ asking ∈ asked, asking.instant ≤ executed.now := by
  induction plays with
  | hangs left retries executor port now late =>
      refine ⟨begun, Nat.le_refl _, ?_⟩
      intro asking member
      cases List.mem_singleton.mp member
      exact begun
  | settles left retries executor port now delay ended timely =>
      refine ⟨Nat.le_add_right now delay, timely, ?_⟩
      intro asking member
      cases List.mem_singleton.mp member
      exact Nat.le_add_right now delay
  | breaksOff left retries executor port now delay ended timely =>
      refine ⟨begun, Nat.le_refl _, ?_⟩
      intro asking member
      cases List.mem_singleton.mp member
      exact begun
  | repeats left retries executor port now delay asked executed _ inTime _ _
      induction =>
      obtain ⟨after, bound, before⟩ := induction inTime
      have later : now ≤ executed.now := by omega
      refine ⟨later, bound, ?_⟩
      intro asking member
      rcases List.mem_cons.mp member with rfl | again
      · exact later
      · exact before asking again

end Plays

end Execution

/-- A retry loop with all the time it needs: when it makes its requests, and
when it ends and with what outcome, if it ever ends. -/
structure Unhurried where
  starts : List Nat
  ending : Option (Nat × Except Failure Reading)

def Unhurried.behind (loop : Unhurried) (start : Nat) : Unhurried :=
  { loop with starts := start :: loop.starts }

namespace RetryPolicy

/-- The retry loop from an instant on, with so many retries left behind its
first request, against the turns of a port. -/
def loop (policy : RetryPolicy)
    (worth : Except Failure Bytes → Except Failure Reading) :
    Nat → (Nat → Turn) → Nat → Unhurried
  | 0, turn, now =>
      { starts := [now]
        ending := (turn 0).delay.map fun delay =>
          (now + delay, policy.conclude (worth (turn 0).outcome)) }
  | retries + 1, turn, now =>
      match (turn 0).delay with
      | none =>
          { starts := [now]
            ending := none }
      | some delay =>
          if Repeated (worth (turn 0).outcome) then
            (policy.loop worth retries (fun index => turn (index + 1))
              (now + delay + policy.delay)).behind now
          else
            { starts := [now]
              ending := some
                (now + delay, policy.conclude (worth (turn 0).outcome)) }

variable {policy : RetryPolicy}
  {worth : Except Failure Bytes → Except Failure Reading} {turn : Nat → Turn}
  {now delay retries : Nat}

theorem loop_hangs (never : (turn 0).delay = none) :
    policy.loop worth retries turn now =
      { starts := [now]
        ending := none } := by
  cases retries <;> simp [loop, never]

theorem loop_settles (ended : (turn 0).delay = some delay)
    (last : retries = 0 ∨ ¬Repeated (worth (turn 0).outcome)) :
    policy.loop worth retries turn now =
      { starts := [now]
        ending := some
          (now + delay, policy.conclude (worth (turn 0).outcome)) } := by
  cases retries with
  | zero => simp [loop, ended]
  | succ retries =>
      have settled := last.resolve_left (Nat.succ_ne_zero retries)
      simp only [loop, ended, if_neg settled]

theorem loop_repeats (ended : (turn 0).delay = some delay)
    (repeated : Repeated (worth (turn 0).outcome)) :
    policy.loop worth (retries + 1) turn now =
      (policy.loop worth retries (fun index => turn (index + 1))
        (now + delay + policy.delay)).behind now := by
  simp only [loop, ended, if_pos repeated]

theorem loop_starts (policy : RetryPolicy)
    (worth : Except Failure Bytes → Except Failure Reading) (retries : Nat) :
    ∀ (turn : Nat → Turn) (now : Nat), ∃ later,
      (policy.loop worth retries turn now).starts = now :: later ∧
        ∀ start ∈ later, ∃ delay, (turn 0).delay = some delay ∧
          now + delay + policy.delay ≤ start := by
  induction retries with
  | zero => exact fun turn now => ⟨[], rfl, nofun⟩
  | succ retries induction =>
      intro turn now
      cases ended : (turn 0).delay with
      | none => exact ⟨[], by rw [loop_hangs ended], nofun⟩
      | some delay =>
          by_cases repeated : Repeated (worth (turn 0).outcome)
          · obtain ⟨later, starts, behind⟩ := induction
              (fun index => turn (index + 1)) (now + delay + policy.delay)
            rw [loop_repeats ended repeated, Unhurried.behind, starts]
            refine ⟨_, rfl, ?_⟩
            intro start member
            refine ⟨delay, rfl, ?_⟩
            rcases List.mem_cons.mp member with rfl | again
            · exact Nat.le_refl _
            · obtain ⟨_, _, after⟩ := behind start again
              omega
          · exact ⟨[], by rw [loop_settles ended (Or.inr repeated)], nofun⟩

theorem filter_loop_starts {deadline : Nat}
    (late : ∀ delay, (turn 0).delay = some delay →
      deadline < now + delay + policy.delay) :
    (policy.loop worth retries turn now).starts.tail.filter
      (· < deadline) = [] := by
  obtain ⟨later, starts, behind⟩ := policy.loop_starts worth retries turn now
  rw [starts, List.tail_cons, List.filter_eq_nil_iff]
  intro start member early
  obtain ⟨delay, ended, after⟩ := behind start member
  have beyond := late delay ended
  have early : start < deadline := of_decide_eq_true early
  omega

/-- A loop comes to its outcome with its attempt of this index, behind the
others one after the other: it takes the time of all their turns, and of a pause
between every two of them. -/
structure Concludes (policy : RetryPolicy)
    (worth : Except Failure Bytes → Except Failure Reading)
    (turn : Nat → Turn) (now : Nat) (starts : List Nat) (time : Nat)
    (outcome : Except Failure Reading) (last : Nat) : Prop where
  length : starts.length = last + 1
  finite : ∀ index ≤ last, (turn index).delay ≠ none
  sum : time = now + ((List.range (last + 1)).map fun index =>
    (turn index).delay.getD 0).sum + last * policy.delay
  result : outcome = policy.conclude (worth (turn last).outcome)
  repeats : ∀ index < last, Repeated (worth (turn index).outcome)

namespace Concludes

variable {starts : List Nat} {time last : Nat}
  {outcome : Except Failure Reading}

theorem once (ended : (turn 0).delay = some delay) :
    policy.Concludes worth turn now [now] (now + delay)
      (policy.conclude (worth (turn 0).outcome)) 0 := by
  constructor
  · rfl
  · intro index first
    rw [Nat.le_zero.mp first, ended]
    exact Option.some_ne_none delay
  · simp [ended]
  · rfl
  · exact nofun

theorem again (ended : (turn 0).delay = some delay)
    (repeated : Repeated (worth (turn 0).outcome))
    (concludes : policy.Concludes worth (fun index => turn (index + 1))
      (now + delay + policy.delay) starts time outcome last) :
    policy.Concludes worth turn now (now :: starts) time outcome
      (last + 1) := by
  obtain ⟨length, finite, sum, result, repeats⟩ := concludes
  constructor
  · exact congrArg Nat.succ length
  · intro index before
    cases index with
    | zero => simp [ended]
    | succ index => exact finite index (Nat.le_of_succ_le_succ before)
  · rw [sum, List.range_succ_eq_map (n := last + 1), List.map_cons,
      List.map_map, List.sum_cons, ended, Nat.succ_mul]
    simp only [Option.getD_some, Function.comp_def, Nat.succ_eq_add_one]
    omega
  · exact result
  · intro index before
    cases index with
    | zero => exact repeated
    | succ index => exact repeats index (Nat.lt_of_succ_lt_succ before)

theorem le_time
    (concludes : policy.Concludes worth turn now starts time outcome last) :
    now ≤ time := by
  have sum := concludes.sum
  omega

theorem first_turn
    (concludes : policy.Concludes worth turn now starts time outcome last) :
    ∃ delay, (turn 0).delay = some delay ∧ now + delay ≤ time := by
  obtain ⟨delay, ended⟩ :=
    Option.ne_none_iff_exists'.mp (concludes.finite 0 (Nat.zero_le last))
  have sum := concludes.sum
  rw [List.range_succ_eq_map, List.map_cons, List.sum_cons, ended,
    Option.getD_some] at sum
  exact ⟨delay, ended, by omega⟩

end Concludes

/-- A loop ends with its last retry, or with an attempt that settles it. -/
theorem loop_concludes {outcome : Except Failure Reading} (retries : Nat) :
    ∀ {turn : Nat → Turn} {now time : Nat},
      (policy.loop worth retries turn now).ending = some (time, outcome) →
        ∃ last ≤ retries,
          policy.Concludes worth turn now
            (policy.loop worth retries turn now).starts time outcome last ∧
          (last = retries ∨ ¬Repeated (worth (turn last).outcome)) := by
  induction retries with
  | zero =>
      intro turn now time ends
      cases ended : (turn 0).delay with
      | none =>
          rw [loop_hangs ended] at ends
          cases ends
      | some delay =>
          rw [loop_settles ended (Or.inl rfl)] at ends ⊢
          cases ends
          exact ⟨0, Nat.le_refl 0, .once ended, Or.inl rfl⟩
  | succ retries induction =>
      intro turn now time ends
      cases ended : (turn 0).delay with
      | none =>
          rw [loop_hangs ended] at ends
          cases ends
      | some delay =>
          by_cases repeated : Repeated (worth (turn 0).outcome)
          · rw [loop_repeats ended repeated] at ends ⊢
            obtain ⟨last, bound, concludes, final⟩ := induction ends
            exact ⟨last + 1, Nat.succ_le_succ bound,
              concludes.again ended repeated,
              final.imp_left (congrArg Nat.succ)⟩
          · rw [loop_settles ended (Or.inr repeated)] at ends ⊢
            cases ends
            exact ⟨0, Nat.zero_le _, .once ended, Or.inr repeated⟩

end RetryPolicy

namespace Execution.Plays

variable {execution : Execution} {executor : Executor} {port : TurnPort}
  {now left : Nat} {retries : UInt32} {asked : List Asking}
  {executed : Executed}

/-- A loop that ends in time is what the execution does. -/
theorem of_inTime
    (plays : execution.Plays left retries executor port now asked executed) :
    executor.policy.Splits left retries → ∀ {time : Nat} {outcome : Except Failure Reading},
      (executor.policy.loop (execution.request.worth executor.check
        execution.function) left port.turn now).ending =
          some (time, outcome) →
      time ≤ execution.deadline →
        executed.outcome = outcome ∧ executed.now = time ∧
          asked.map Asking.instant =
            (executor.policy.loop (execution.request.worth executor.check
              execution.function) left port.turn now).starts := by
  induction plays with
  | hangs left retries executor port now late =>
      intro splits time outcome ends inTime
      obtain ⟨_, _, concludes, _⟩ := RetryPolicy.loop_concludes left ends
      obtain ⟨delay, ended, before⟩ := concludes.first_turn
      have beyond := late delay ended
      omega
  | settles left retries executor port now delay ended timely last =>
      intro splits time outcome ends inTime
      rw [RetryPolicy.loop_settles ended last] at ends ⊢
      cases ends
      exact ⟨splits.giveUp_eq last, rfl, rfl⟩
  | breaksOff left retries executor port now delay ended _ beyond repeated =>
      intro splits time outcome ends inTime
      rw [RetryPolicy.loop_repeats ended repeated] at ends
      obtain ⟨_, _, concludes, _⟩ := RetryPolicy.loop_concludes left ends
      have behind := concludes.le_time
      omega
  | repeats left retries executor port now delay asked executed ended _ repeated _
      induction =>
      intro splits time outcome ends inTime
      obtain ⟨check, policy⟩ :=
        executor.receive_settings execution (port.turn 0).outcome
      rw [RetryPolicy.loop_repeats ended repeated] at ends ⊢
      rw [check, policy, TurnPort.turn_taken] at induction
      obtain ⟨result, stops, starts⟩ := induction splits.again ends inTime
      exact ⟨result, stops, congrArg (List.cons now) starts⟩

/-- A loop that does not end in time is cut off at the deadline. -/
theorem of_late
    (plays : execution.Plays left retries executor port now asked executed) :
    (∀ time outcome, (executor.policy.loop (execution.request.worth
        executor.check execution.function) left port.turn now).ending =
          some (time, outcome) → execution.deadline < time) →
      execution.deadline ∉ (executor.policy.loop (execution.request.worth
        executor.check execution.function) left port.turn
          now).starts.tail →
        executed.outcome = .error (executor.expiry execution) ∧
          executed.now = execution.deadline ∧
          asked.map Asking.instant =
            now :: (executor.policy.loop (execution.request.worth
              executor.check execution.function) left port.turn
                now).starts.tail.filter (· < execution.deadline) := by
  induction plays with
  | hangs left retries executor port now late =>
      intro _ _
      refine ⟨rfl, rfl, ?_⟩
      rw [RetryPolicy.filter_loop_starts fun delay ended =>
        Nat.lt_of_lt_of_le (late delay ended) (Nat.le_add_right _ _)]
      rfl
  | settles left retries executor port now delay ended timely last =>
      intro ends _
      rw [RetryPolicy.loop_settles ended last] at ends
      exact absurd timely (Nat.not_le.mpr (ends _ _ rfl))
  | breaksOff left retries executor port now delay ended _ beyond repeated =>
      intro _ _
      have policy := executor.receive_settings execution (port.turn 0).outcome
      refine ⟨?_, rfl, ?_⟩
      · simp only [expireAt, Executor.expire, Executor.expiry, policy.2]
      · have late : ∀ other, (port.turn 0).delay = some other →
            execution.deadline < now + other + executor.policy.delay := by
          intro other same
          cases ended.symm.trans same
          exact beyond
        rw [RetryPolicy.filter_loop_starts late]
        rfl
  | repeats left retries executor port now delay asked executed ended inTime
      repeated _ induction =>
      intro ends clear
      obtain ⟨check, policy⟩ :=
        executor.receive_settings execution (port.turn 0).outcome
      have expiry : (executor.receive execution
          (port.turn 0).outcome).1.expiry execution =
            executor.expiry execution := by
        simp only [Executor.expiry, policy]
      rw [expiry, check, policy, TurnPort.turn_taken] at induction
      rw [RetryPolicy.loop_repeats ended repeated] at ends clear ⊢
      simp only [Unhurried.behind, List.tail_cons] at clear ⊢
      obtain ⟨later, starts, _⟩ := executor.policy.loop_starts
        (execution.request.worth executor.check execution.function) left
        (fun index => port.turn (index + 1))
        (now + delay + executor.policy.delay)
      rw [starts] at clear induction ⊢
      rw [List.mem_cons, not_or] at clear
      obtain ⟨elsewhere, clear⟩ := clear
      obtain ⟨result, stops, instants⟩ := induction ends clear
      have early : now + delay + executor.policy.delay <
          execution.deadline := by omega
      refine ⟨result, stops, ?_⟩
      simp [instants, early]

end Execution.Plays

namespace Executor

def nextExecution (executor : Executor) (now : Nat) (function : MeterFunction)
    (request : Request) (message : Bytes) : Execution :=
  { function := function
    request := request
    message := message
    context := s!"[{executor.begun + 1}] {request.label}"
    deadline := now + executor.policy.deadline }

/-- The requests that an execution makes, oldest first. -/
def Asks (executor : Executor) (port : TurnPort) (now : Nat)
    (function : MeterFunction) (request : Request) (message : Bytes)
    (asked : List Asking) : Prop :=
  (executor.nextExecution now function request message).Plays
    executor.policy.maxRetries.toNat 0
    { executor with begun := executor.begun + 1 } port now asked
    (executor.execute port now function request)

theorem start_of_message {executor : Executor} (now : Nat)
    (function : MeterFunction) {request : Request} {message : Bytes}
    (framed : request.message executor.check.stamp = .ok message) :
    executor.start now function request =
      ({ executor with begun := executor.begun + 1 },
        .ok (executor.nextExecution now function request message)) := by
  simp only [start, framed, nextExecution]

theorem exists_asks (executor : Executor) (port : TurnPort) (now : Nat)
    (function : MeterFunction) {request : Request} {message : Bytes}
    (framed : request.message executor.check.stamp = .ok message) :
    ∃ asked, executor.Asks port now function request message asked := by
  have played : executor.execute port now function request =
      (executor.nextExecution now function request message).play
        executor.policy.maxRetries.toNat 0
        { executor with begun := executor.begun + 1 } port now := by
    simp only [execute, start_of_message now function framed]
  obtain ⟨asked, plays⟩ := Execution.exists_plays
    (executor.nextExecution now function request message)
    executor.policy.maxRetries.toNat 0
    { executor with begun := executor.begun + 1 } port now
  rw [← played] at plays
  exact ⟨asked, plays⟩

/-- An execution is its retry loop if the loop ends before the deadline.  If
not, it ends at the deadline and reports that, having made its first request
and those other requests of the loop that begin before the deadline.  It never
takes longer, and makes no request behind its end. -/
theorem cut_off_at_deadline (executor : Executor) (port : TurnPort)
    (now : Nat) (function : MeterFunction) (request : Request) :
    let executed := executor.execute port now function request
    let policy := executor.policy
    let deadline := now + policy.deadline
    let worth := request.worth executor.check function
    let retries := policy.maxRetries.toNat
    let loop := policy.loop worth retries port.turn now
    (∀ time outcome, loop.ending = some (time, outcome) →
      ∃ last ≤ retries, loop.starts.length = last + 1 ∧
        (∀ index ≤ last, (port.turn index).delay ≠ none) ∧
        time = now + ((List.range (last + 1)).map fun index =>
          (port.turn index).delay.getD 0).sum + last * policy.delay ∧
        outcome = policy.conclude (worth (port.turn last).outcome) ∧
        (∀ index < last, Repeated (worth (port.turn index).outcome)) ∧
        (last = retries ∨ ¬Repeated (worth (port.turn last).outcome))) ∧
    (∀ failure, request.message executor.check.stamp = .error failure →
      executed.outcome = .error failure ∧ executed.now = now ∧
        executed.port = port) ∧
    ∀ message, request.message executor.check.stamp = .ok message →
      ∃ asked, executor.Asks port now function request message asked ∧
        executed.port.requests =
          port.requests ++ List.replicate asked.length message ∧
        (∀ time outcome, loop.ending = some (time, outcome) →
          time < deadline →
            executed.outcome = outcome ∧ executed.now = time ∧
              asked.map Asking.instant = loop.starts) ∧
        ((∀ time outcome, loop.ending = some (time, outcome) →
            deadline < time) →
          deadline ∉ loop.starts.tail →
            executed.outcome = .error (.timeout
              s!"[{executor.begun + 1}] {request.label} function {function.name}"
              policy.deadline) ∧
            executed.now = deadline ∧
            asked.map Asking.instant =
              now :: loop.starts.tail.filter (· < deadline)) ∧
        executed.now ≤ deadline ∧
        ∀ asking ∈ asked, asking.instant ≤ executed.now := by
  intro executed policy deadline worth retries loop
  refine ⟨?_, ?_, ?_⟩
  · intro time outcome ends
    obtain ⟨last, bound, concludes, final⟩ :=
      RetryPolicy.loop_concludes retries ends
    obtain ⟨length, finite, sum, result, repeats⟩ := concludes
    exact ⟨last, bound, length, finite, sum, result, repeats, final⟩
  · intro failure refused
    have settled : executed.outcome = .error failure ∧ executed.port = port :=
      execute_of_refusal refused
    refine ⟨settled.1, ?_, settled.2⟩
    simp [executed, execute, start, refused]
  · intro message framed
    obtain ⟨asked, asks⟩ := executor.exists_asks port now function framed
    obtain ⟨_, bound, before⟩ :=
      Execution.Plays.ends asks (Nat.le_add_right now _)
    refine ⟨asked, asks, (Execution.Plays.requests asks).1, ?_, ?_, bound,
      before⟩
    · intro time outcome ends inTime
      exact Execution.Plays.of_inTime asks executor.policy.splits_zero ends
        (Nat.le_of_lt inTime)
    · intro late clear
      exact Execution.Plays.of_late asks late clear

end Executor

namespace NoisyLine

def hurried (deadline : Nat) : Executor :=
  Executor.fresh .crc { RetryPolicy.standard with deadline := deadline }

def unhurried (deadline : Nat) : Unhurried :=
  (hurried deadline).policy.loop
    ((Request.read 1 .currentPower).worth (hurried deadline).check
      .readCurrentPower)
    (hurried deadline).policy.maxRetries.toNat port.turn 0

theorem ends_at {deadline time : Nat} {outcome : Except Failure Reading}
    (ends : (unhurried deadline).ending.map Prod.fst = some 320)
    (ending : (unhurried deadline).ending = some (time, outcome)) :
    time = 320 := by
  rw [ending] at ends
  exact Option.some.inj ends

end NoisyLine

open NoisyLine in
/-- The loop asks three times in 320 milliseconds.  An execution that may take
330 does the same; one that may take 250 is cut off in the second pause. -/
theorem Executor.noisy_read_cut_off :
    ((hurried 330).execute NoisyLine.port 0 .readCurrentPower
        (Request.read 1 .currentPower)).now = 320 ∧
      ((hurried 250).execute NoisyLine.port 0 .readCurrentPower
        (Request.read 1 .currentPower)).now = 250 ∧
      ∃ asked, (hurried 250).Asks NoisyLine.port 0 .readCurrentPower
          (Request.read 1 .currentPower) (Request.frame 1 .currentPower)
          asked ∧
        asked.map Asking.instant = [0, 140] := by
  have framed := Request.message_read 1 .currentPower
  have ample : (unhurried 330).ending.map Prod.fst = some 320 := by
    decide +kernel
  have scant : (unhurried 250).ending.map Prod.fst = some 320 := by
    decide +kernel
  obtain ⟨_, _, general⟩ := cut_off_at_deadline (hurried 330) NoisyLine.port 0
    .readCurrentPower (Request.read 1 .currentPower)
  obtain ⟨_, _, _, inTime, _⟩ := general _ framed
  obtain ⟨_, _, general⟩ := cut_off_at_deadline (hurried 250) NoisyLine.port 0
    .readCurrentPower (Request.read 1 .currentPower)
  obtain ⟨asked, asks, _, _, late, _⟩ := general _ framed
  obtain ⟨_, stops, instants⟩ := late
    (fun time outcome ending => ends_at scant ending ▸ by decide)
    (by decide +kernel)
  obtain ⟨⟨time, outcome⟩, ending, same⟩ := Option.map_eq_some_iff.mp ample
  obtain rfl : time = 320 := same
  obtain ⟨_, now, _⟩ := inTime 320 outcome ending (by decide)
  exact ⟨now, stops, asked, asks,
    instants.trans (by decide +kernel)⟩

open NoisyLine in
/-- The first request is made even if there is no time for it. -/
theorem Executor.asks_without_time :
    let executed := (hurried 0).execute NoisyLine.port 0 .readCurrentPower
      (Request.read 1 .currentPower)
    (unhurried 0).ending.map Prod.fst = some 320 ∧
      (unhurried 0).starts = [0, 140, 280] ∧ executed.now = 0 ∧
      executed.outcome = .error
        (.timeout "[1] 1.CurrentPower(0x86) function ReadCurrentPower" 0) ∧
      executed.port.requests = [Request.frame 1 .currentPower] ∧
      (unhurried 0).starts.filter (· < (hurried 0).policy.deadline) = [] := by
  refine ⟨?_, ?_, ?_, rfl, ?_, ?_⟩
  all_goals decide +kernel

end MeterLine
