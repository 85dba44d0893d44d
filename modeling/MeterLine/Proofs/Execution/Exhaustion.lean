import MeterLine.Proofs.Execution.Coverage
import MeterLine.Proofs.Execution.Deadline

/-!
# Exhausted retries

An execution that gives up reports how many attempts it made: one more than the
retries that its policy allows.  The number is kept in thirty-two bits, which
count the attempts of every policy but the one that allows as many retries as
these bits can count.  A port may report exhausted retries of its own, and such
a report is handed on as it is.
-/

namespace MeterLine

theorem MeterFunction.decode_failure {function : MeterFunction}
    {reply : Bytes} {failure : Failure}
    (failed : function.decode reply = .error failure) :
    ∃ text, failure = .invalidData text := by
  rw [decode_eq_field, Frame.field] at failed
  split at failed
  · cases failed
  · cases failed
    exact ⟨_, rfl⟩

/-- A reply is never worth a report of exhausted retries; only a port can give
one. -/
theorem Request.worth_exhausted {request : Request} {check : FrameCheck}
    {function : MeterFunction} {outcome : Except Failure Bytes}
    {attempts : UInt32} {cause : Failure}
    (exhausted : request.worth check function outcome =
      .error (.retriesExhausted attempts cause)) :
    outcome = .error (.retriesExhausted attempts cause) := by
  cases outcome with
  | error failure =>
      cases exhausted
      rfl
  | ok reply =>
      simp only [worth] at exhausted
      split at exhausted
      · cases exhausted
      · split at exhausted
        · cases exhausted
        · obtain ⟨text, same⟩ := MeterFunction.decode_failure exhausted
          cases same

theorem Request.message_failure {request : Request} {stamp : Bytes → Bytes}
    {failure : Failure} (refused : request.message stamp = .error failure) :
    ∃ text, failure = .configuration text := by
  rw [message_eq_map] at refused
  unfold checked at refused
  split at refused
  · cases refused
    exact ⟨_, rfl⟩
  · split at refused
    · cases refused
      exact ⟨_, rfl⟩
    · cases refused

/-- The last attempt of an execution that reports exhausted retries. -/
theorem Execution.Plays.exhausted {execution : Execution}
    {executor : Executor} {port : TurnPort} {now left : Nat}
    {retries : UInt32} {asked : List Asking} {executed : Executed}
    {attempts : UInt32} {cause : Failure}
    (plays : execution.Plays left retries executor port now asked executed) :
    executed.outcome = .error (.retriesExhausted attempts cause) →
      ∃ last, asked.length = last + 1 ∧
        ((port.turn last).outcome =
            .error (.retriesExhausted attempts cause) ∨
          last = left ∧ Repeated (.error cause) ∧
            attempts = retries + UInt32.ofNat last + 1) := by
  induction plays with
  | hangs =>
      intro exhausted
      cases exhausted
  | settles left retries executor port now delay ended timely last =>
      intro exhausted
      refine ⟨0, rfl, ?_⟩
      rw [finishAt, Executor.finish] at exhausted
      by_cases repeated : Repeated (execution.request.worth executor.check
          execution.function (port.turn 0).outcome)
      · right
        obtain ⟨failure, worth, concluded⟩ :=
          giveUp_of_repeated retries repeated
        rw [worth] at repeated
        cases concluded.symm.trans exhausted
        exact ⟨(last.resolve_right (not_not_intro (worth ▸ repeated))).symm,
          repeated, by simp⟩
      · left
        rw [giveUp_of_settled retries repeated] at exhausted
        exact Request.worth_exhausted exhausted
  | breaksOff =>
      intro exhausted
      cases exhausted
  | repeats left retries executor port now delay asked executed _ _ _ _
      induction =>
      intro exhausted
      obtain ⟨last, length, reported⟩ := induction exhausted
      rw [TurnPort.taken_turn] at reported
      refine ⟨last + 1, congrArg Nat.succ length, ?_⟩
      rcases reported with own | ⟨rfl, repeated, counted⟩
      · exact Or.inl own
      · refine Or.inr ⟨rfl, repeated, ?_⟩
        rw [counted, UInt32.ofNat_add, UInt32.add_comm (UInt32.ofNat last),
          ← UInt32.add_assoc]
        rfl

theorem toNat_succ_of_ne {count : UInt32} (more : count ≠ 0xFFFFFFFF) :
    (count + 1).toNat = count.toNat + 1 := by
  have bound := count.toNat_lt
  rw [ne_eq, ← UInt32.toNat_inj] at more
  rw [UInt32.toNat_add]
  simp only [UInt32.reduceToNat] at more ⊢
  omega

/-- An execution that ends with exhausted retries either hands on what its port
reports of itself, or has made all the attempts that its policy allows.  It
then reports their number, if the policy allows fewer retries than can be
counted. -/
theorem Executor.exhausted_attempts_counted {executor : Executor}
    {port : TurnPort} {now : Nat} {function : MeterFunction}
    {request : Request} {attempts : UInt32} {cause : Failure}
    (exhausted : (executor.execute port now function request).outcome =
      .error (.retriesExhausted attempts cause)) :
    ∃ message last, request.message executor.check.stamp = .ok message ∧
      (executor.execute port now function request).port.requests =
        port.requests ++ List.replicate (last + 1) message ∧
      ((port.turn last).outcome =
          .error (.retriesExhausted attempts cause) ∨
        last = executor.policy.maxRetries.toNat ∧ cause.retryable = true ∧
          (executor.policy.maxRetries ≠ 0xFFFFFFFF →
            attempts.toNat = last + 1)) := by
  cases framed : request.message executor.check.stamp with
  | error failure =>
      obtain ⟨text, rfl⟩ := Request.message_failure framed
      rw [(execute_of_refusal framed).1] at exhausted
      cases exhausted
  | ok message =>
      obtain ⟨asked, asks⟩ := executor.exists_asks port now function framed
      obtain ⟨last, length, reported⟩ :=
        Execution.Plays.exhausted asks exhausted
      have requests := (Execution.Plays.requests asks).1
      rw [length] at requests
      refine ⟨message, last, rfl, requests, ?_⟩
      rcases reported with own | ⟨rfl, repeated, rfl⟩
      · exact Or.inl own
      · rw [UInt32.zero_add, UInt32.ofNat_toNat]
        exact Or.inr ⟨rfl, isRetryable_iff.mpr repeated, toNat_succ_of_ne⟩

namespace DamagedLine

def turn : Turn :=
  { delay := some 0
    outcome := .ok [0, 0] }

def port (count : Nat) : TurnPort :=
  { name := "damaged"
    running := true
    turns := List.replicate count turn
    requests := [] }

def executor (retries : UInt32) : Executor :=
  Executor.fresh .crc
    { maxRetries := retries
      delay := 0
      deadline := 5000 }

theorem turn_port {count index : Nat} (within : index < count) :
    (port count).turn index = turn := by
  simp [port, TurnPort.turn, List.getD, within]

theorem turn_behind {count index : Nat} (beyond : count ≤ index) :
    (port count).turn index = TurnPort.noTurn := by
  simp [port, TurnPort.turn, List.getD, beyond]

theorem endOf_port {count index : Nat} (within : index < count) :
    (port count).endOf 0 index = some 0 := by
  induction index with
  | zero => simp [TurnPort.endOf, turn_port within, turn]
  | succ index induction =>
      simp [TurnPort.endOf, turn_port within,
        induction (Nat.lt_of_succ_lt within), turn]

theorem worth_turn :
    (Request.read 1 .currentPower).worth .crc .readCurrentPower turn.outcome =
      .error .checkMismatch := rfl

theorem exhausts (retries : UInt32) :
    let executed := (executor retries).execute (port (retries.toNat + 1)) 0
      .readCurrentPower (Request.read 1 .currentPower)
    executed.outcome =
        .error (.retriesExhausted (retries + 1) .checkMismatch) ∧
      executed.port.requests = List.replicate (retries.toNat + 1)
        (Request.frame 1 .currentPower) := by
  have worth : ∀ index, index < retries.toNat + 1 →
      (Request.read 1 .currentPower).worth .crc .readCurrentPower
        ((port (retries.toNat + 1)).turn index).outcome =
          .error .checkMismatch := by
    intro index within
    rw [turn_port within, worth_turn]
  have repeats : ∀ index < retries.toNat,
      Repeated ((Request.read 1 .currentPower).worth .crc .readCurrentPower
        ((port (retries.toNat + 1)).turn index).outcome) := by
    intro index before
    rw [worth index (Nat.lt_succ_of_lt before)]
    exact .damaged
  have last := worth retries.toNat (Nat.lt_succ_self _)
  have inTime : (port (retries.toNat + 1)).InTime (executor retries).policy
      retries.toNat :=
    ⟨0, endOf_port (Nat.lt_succ_self retries.toNat), Nat.zero_le _⟩
  obtain ⟨outcome, requests⟩ := (executor retries).execute_concludes 0
    (Request.message_read 1 .currentPower) (Nat.le_refl retries.toNat) repeats
    (Or.inl rfl) inTime
  exact ⟨outcome.trans (congrArg _ last), requests⟩

/-- A port that reports exhausted retries of its own. -/
def reporting : TurnPort :=
  { name := "reporting"
    running := true
    turns :=
      [{ delay := some 0
         outcome := .error (.retriesExhausted 9 .checkMismatch) }]
    requests := [] }

end DamagedLine

open DamagedLine in
theorem Executor.third_attempt_exhausts :
    ∃ last, ((executor 2).execute (port 3) 0 .readCurrentPower
        (Request.read 1 .currentPower)).port.requests =
          List.replicate (last + 1) (Request.frame 1 .currentPower) ∧
      ((executor 2).execute (port 3) 0 .readCurrentPower
        (Request.read 1 .currentPower)).outcome =
          .error (.retriesExhausted 3 .checkMismatch) ∧
      last + 1 = 3 := by
  have outcome : ((executor 2).execute (port 3) 0 .readCurrentPower
      (Request.read 1 .currentPower)).outcome =
        .error (.retriesExhausted 3 .checkMismatch) := (exhausts 2).1
  obtain ⟨message, last, framed, requests, reported⟩ :=
    exhausted_attempts_counted outcome
  cases (Request.message_read 1 .currentPower).symm.trans framed
  refine ⟨last, requests, outcome, ?_⟩
  rcases reported with own | ⟨rfl, _, counted⟩
  · exfalso
    rcases Nat.lt_or_ge last 3 with within | beyond
    · rw [turn_port within] at own
      cases own
    · rw [turn_behind beyond] at own
      cases own
  · exact (counted (by decide)).symm

open DamagedLine in
/-- With the greatest number of retries, more than four thousand million
attempts are reported as none.  A report of the port itself is handed on after
a single one. -/
theorem Executor.attempts_misreported :
    (((executor 0xFFFFFFFF).execute (port 4294967296) 0 .readCurrentPower
          (Request.read 1 .currentPower)).outcome =
        .error (.retriesExhausted 0 .checkMismatch) ∧
      ((executor 0xFFFFFFFF).execute (port 4294967296) 0 .readCurrentPower
        (Request.read 1 .currentPower)).port.requests.length = 4294967296) ∧
    ((executor 2).execute reporting 0 .readCurrentPower
          (Request.read 1 .currentPower)).outcome =
        .error (.retriesExhausted 9 .checkMismatch) ∧
      ((executor 2).execute reporting 0 .readCurrentPower
        (Request.read 1 .currentPower)).port.requests.length = 1 := by
  refine ⟨?_, rfl, rfl⟩
  obtain ⟨outcome, requests⟩ := exhausts 0xFFFFFFFF
  refine ⟨outcome, ?_⟩
  rw [show (4294967296 : Nat) = (0xFFFFFFFF : UInt32).toNat + 1 from rfl,
    requests, List.length_replicate]

end MeterLine
