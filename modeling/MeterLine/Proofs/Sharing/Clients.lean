import MeterLine.Bench.Caller
import MeterLine.Proofs.Execution.Attempts
import MeterLine.Proofs.Sharing.Book

/-!
# Clients of a port

A client has a register of a meter read by an executor.  It asks the port once,
because nothing that the port answers is worth another attempt, and then it
hears what came of its entry in the book or runs out of time.
-/

namespace MeterLine

/-- Someone for whom a function is executed. -/
structure Client where
  executor : Nat
  function : MeterFunction
  device : UInt8
  register : Register
  /-- The instant of the first turn, from which time is counted. -/
  begun : Option Nat
  caller : Bench.Caller

namespace Executor

def execution (executor : Executor) (now : Nat) (function : MeterFunction)
    (device : UInt8) (register : Register) : Execution :=
  { function := function
    request := Request.read device register
    message := Request.frame device register
    context :=
      s!"[{executor.begun + 1}] {(Request.read device register).label}"
    deadline := now + executor.policy.deadline }

theorem start_read {executor : Executor} (checked : executor.check = .crc)
    (now : Nat) (function : MeterFunction) (device : UInt8)
    (register : Register) :
    executor.start now function (Request.read device register) =
      ({ executor with begun := executor.begun + 1 },
        .ok (executor.execution now function device register)) := by
  rw [start, checked, Request.message_read]
  rfl

theorem finish_outcome (executor : Executor) (execution : Execution)
    (retries : UInt32) {outcome : Except Failure Reading}
    (settled : isRetryable outcome = false) :
    (executor.finish execution retries outcome).2 = outcome :=
  giveUp_of_settled retries (isRetryable_eq_false_iff.mp settled)

end Executor

namespace Client

def booking (client : Client) (begun : Nat) : Booking :=
  { device := client.device
    register := client.register
    since := begun }

/-- What a function comes to by an instant, if it is executed for an entry:
the reading of the reply that the entry's own meter sends for the entry's own
register, an expiry because this meter is silent, or an expiry of the
execution. -/
inductive Returns (settings : PortSettings) (meters : Meters)
    (policy : RetryPolicy) (function : MeterFunction) (entry : Booking)
    (instant : Nat) : Except Failure Reading → Prop where
  | reads (flushed : Nat) (data : Bytes) (reading : Reading) :
      entry.since ≤ flushed →
      flushed ≤ instant →
      meters.data flushed entry.device entry.register = some data →
      function.decode (replyFrame entry.device data) = .ok reading →
      Returns settings meters policy function entry instant (.ok reading)
  | silent (flushed : Nat) :
      entry.since ≤ flushed →
      flushed ≤ instant →
      meters.data flushed entry.device entry.register = none →
      Returns settings meters policy function entry instant
        (.error (Exchange.watchExpiry settings))
  | expires (text : String) :
      entry.since + policy.deadline ≤ instant →
      Returns settings meters policy function entry instant
        (.error (.timeout text policy.deadline))

/-- An execution waits for the answer to an entry in the book. -/
structure Asks (known : Nat) (book : List Booking) (policy : RetryPolicy)
    (function : MeterFunction) (entry : Booking) (execution : Execution)
    (number : Nat) : Prop where
  booked : Booked known book number entry
  function : execution.function = function
  request : execution.request = Request.read entry.device entry.register
  deadline : execution.deadline = entry.since + policy.deadline

/-- Where a client stands with its port. -/
inductive Stands (settings : PortSettings) (meters : Meters) (known : Nat)
    (book : List Booking) (policy : RetryPolicy) (client : Client) :
    Prop where
  | fresh :
      client.caller.stage = .fresh →
      client.begun = none →
      client.caller.errand =
        .function client.function
          (Request.read client.device client.register) →
      Stands settings meters known book policy client
  | asks (begun : Nat) (execution : Execution) (retries : UInt32)
      (number : Nat) :
      client.caller.stage = .asking execution retries number →
      client.begun = some begun →
      Asks known book policy client.function (client.booking begun) execution
        number →
      Stands settings meters known book policy client
  | concluded (begun : Nat) (outcome : Except Failure Reading)
      (instant : Nat) :
      client.caller.stage = .concluded outcome instant →
      client.begun = some begun →
      Returns settings meters policy client.function (client.booking begun)
        instant outcome →
      Stands settings meters known book policy client
  | gone :
      client.caller.stage = .gone →
      Stands settings meters known book policy client

def after (client : Client) (now : Nat) (turned : Bench.Caller.Turned σ) :
    Client :=
  { client with
    begun := some (client.begun.getD now)
    caller := turned.caller }

/-- What a turn of a client leaves behind. -/
structure Turns (settings : PortSettings) (meters : Meters)
    (shows : σ → LineView) (known : Nat) (book : List Booking) (now : Nat)
    (executor : Executor) (client : Client)
    (turned : Bench.Caller.Turned σ) : Prop where
  keeps : turned.port.Keeps settings meters shows known book now
  check : turned.executor.check = executor.check
  policy : turned.executor.policy = executor.policy
  stands : (client.after now turned).Stands settings meters known book
    executor.policy
  timely : turned.caller.isOver = true ∨
    now < client.begun.getD now + executor.policy.deadline

variable {settings : PortSettings} {meters : Meters} {shows : σ → LineView}
  {known now begun : Nat} {book : List Booking} {policy : RetryPolicy}
  {client : Client} {port : Port σ} {executor : Executor}

theorem Stands.append
    (stands : client.Stands settings meters known book policy)
    (more : List Booking) :
    client.Stands settings meters known (book ++ more) policy := by
  cases stands with
  | fresh stage none_ errand => exact .fresh stage none_ errand
  | asks begun execution retries number stage started asks =>
      refine .asks begun execution retries number stage started ?_
      exact { asks with booked := asks.booked.append more }
  | concluded begun outcome instant stage started returns =>
      exact .concluded begun outcome instant stage started returns
  | gone stage => exact .gone stage

/-- What a client was told is what its function came to. -/
theorem Stands.returns
    (stands : client.Stands settings meters known book policy)
    {outcome : Except Failure Reading} {instant : Nat}
    (stage : client.caller.stage = .concluded outcome instant) :
    ∃ begun, client.begun = some begun ∧
      Returns settings meters policy client.function (client.booking begun)
        instant outcome := by
  cases stands with
  | fresh other =>
      rw [stage] at other
      cases other
  | asks _ _ _ _ other =>
      rw [stage] at other
      cases other
  | concluded begun _ _ same started returns =>
      rw [stage] at same
      cases same
      exact ⟨begun, started, returns⟩
  | gone other =>
      rw [stage] at other
      cases other

theorem Stands.over_cases
    (stands : client.Stands settings meters known book policy)
    (ended : client.caller.isOver = true) :
    (∃ outcome instant, client.caller.stage = .concluded outcome instant) ∨
      client.caller.stage = .gone := by
  cases stands with
  | fresh stage => simp [Bench.Caller.isOver, stage] at ended
  | asks _ _ _ _ stage => simp [Bench.Caller.isOver, stage] at ended
  | concluded _ outcome instant stage =>
      exact Or.inl ⟨outcome, instant, stage⟩
  | gone stage => exact Or.inr stage

private theorem conclude_turns
    (keeps : port.Keeps settings meters shows known book now)
    {ended : Executor × Except Failure Reading}
    (check : ended.1.check = executor.check)
    (policy : ended.1.policy = executor.policy)
    (returns : Returns settings meters executor.policy client.function
      (client.booking (client.begun.getD now)) now ended.2) :
    client.Turns settings meters shows known book now executor
      (client.caller.conclude port now ended) := by
  constructor
  · exact keeps
  · exact check
  · exact policy
  · exact .concluded (client.begun.getD now) ended.2 now rfl rfl returns
  · exact Or.inl rfl

private theorem wait_turns
    (keeps : port.Keeps settings meters shows known book now)
    {asker : Executor} (check : asker.check = executor.check)
    (policy : asker.policy = executor.policy)
    {execution : Execution} {retries : UInt32} {number : Nat}
    (asks : Asks known book executor.policy client.function
      (client.booking (client.begun.getD now)) execution number) :
    client.Turns settings meters shows known book now executor
      (client.caller.wait asker port now execution
        (.asking execution retries number)) := by
  by_cases late : execution.deadline ≤ now
  · rw [Bench.Caller.wait, if_pos late]
    have keeps := keeps.abandon number
    apply conclude_turns keeps
    · exact check
    · exact policy
    · rw [asks.deadline] at late
      have expires : Returns settings meters executor.policy client.function
          (client.booking (client.begun.getD now)) now
          (.error (.timeout
            s!"{execution.context} function {execution.function.name}"
            executor.policy.deadline)) :=
        .expires _ late
      rw [← policy] at expires ⊢
      exact expires
  · rw [Bench.Caller.wait, if_neg late]
    constructor
    · exact keeps
    · exact check
    · exact policy
    · exact .asks (client.begun.getD now) execution retries number rfl rfl
        asks
    · rw [asks.deadline] at late
      exact Or.inr (Nat.lt_of_not_le late)

/-- What is not worth another attempt ends an execution, however many retries
are behind it. -/
private theorem settle_eq (caller : Bench.Caller) (executor : Executor)
    (port : Port σ) (now : Nat) (execution : Execution) (retries : UInt32)
    {outcome : Except Failure Reading}
    (settled : isRetryable outcome = false) :
    caller.settle executor port now execution retries outcome =
      caller.conclude port now
        (executor.finish execution retries outcome) := by
  simp [Bench.Caller.settle, settled]

/-- What a served entry is worth to an execution that asked for it. -/
private theorem receive_served {execution : Execution}
    {function : MeterFunction} {entry : Booking} {number : Nat}
    {outcome : Except Failure Bytes} (checked : executor.check = .crc)
    (asks : Asks known book policy function entry execution number)
    (served : entry.Served settings meters now outcome) :
    isRetryable (executor.receive execution outcome).2 = false ∧
      Returns settings meters policy function entry now
        (executor.receive execution outcome).2 := by
  obtain ⟨flushed, since, past, answer⟩ := served
  rcases answer with ⟨silent, rfl⟩ | ⟨data, answered, rfl⟩
  · exact ⟨rfl, .silent flushed since past silent⟩
  · have whole := meters.whole answered
    obtain ⟨reading, decoded⟩ :=
      function.decode_replyFrame entry.device whole
    have received :
        (executor.receive execution (.ok (replyFrame entry.device data))).2 =
          .ok reading := by
      simp only [Executor.receive, checked, asks.function, asks.request]
      rw [Request.judge_replyFrame function entry.device entry.register whole]
      exact decoded
    rw [received]
    exact ⟨rfl, .reads flushed data reading since past answered decoded⟩

theorem Stands.turns_fresh
    (keeps : port.Keeps settings meters shows known book now)
    (checked : executor.check = .crc)
    (stage : client.caller.stage = .fresh) (fresh : client.begun = none)
    (errand : client.caller.errand =
      .function client.function
        (Request.read client.device client.register)) :
    client.Turns settings meters shows known
      (book ++ [client.booking now]) now executor
      (client.caller.turn executor port now) := by
  have started : client.begun.getD now = now := by rw [fresh]; rfl
  have timely : (client.booking now).since ≤ now := Nat.le_refl now
  have entered := keeps.submit timely
  have admitted := keeps.submit_eq (client.booking now).frame
  rw [admitted] at entered
  simp only [Bench.Caller.turn, stage, Bench.Caller.begin, errand,
    Executor.start_read checked, Bench.Caller.ask]
  have message : (executor.execution now client.function client.device
      client.register).message = (client.booking now).frame := rfl
  rw [message, admitted]
  apply wait_turns entered
  · rfl
  · rfl
  · rw [started]
    constructor
    · rw [keeps.counted]
      exact Booked.last known book _
    · rfl
    · rfl
    · rfl

theorem Stands.turns_asking
    (keeps : port.Keeps settings meters shows known book now)
    (checked : executor.check = .crc) {execution : Execution}
    {retries : UInt32} {number : Nat}
    (stage : client.caller.stage = .asking execution retries number)
    (started : client.begun = some begun)
    (asks : Asks known book executor.policy client.function
      (client.booking begun) execution number) :
    client.Turns settings meters shows known book now executor
      (client.caller.turn executor port now) := by
  have since : client.begun.getD now = begun := by rw [started]; rfl
  simp only [Bench.Caller.turn, stage]
  cases answered : port.answer? number with
  | none =>
      apply wait_turns keeps
      · rfl
      · rfl
      · rw [since]
        exact asks
  | some outcome =>
      have served := keeps.answer asks.booked answered
      obtain ⟨settled, returns⟩ := receive_served checked asks served
      obtain ⟨check, policy⟩ := executor.receive_settings execution outcome
      change client.Turns settings meters shows known book now executor
        (client.caller.settle (executor.receive execution outcome).1 port now
          execution retries (executor.receive execution outcome).2)
      rw [settle_eq _ _ _ _ _ _ settled]
      apply conclude_turns keeps
      · exact check
      · exact policy
      · rw [since, Executor.finish_outcome _ _ _ settled]
        exact returns

private theorem over_turns
    (keeps : port.Keeps settings meters shows known book now)
    (ended : client.caller.isOver = true)
    (stands : Stands settings meters known book executor.policy
      { client with begun := some (client.begun.getD now) }) :
    client.Turns settings meters shows known book now executor
      (client.caller.turn executor port now) := by
  have still : client.caller.turn executor port now =
      { caller := client.caller
        executor := executor
        port := port } := by
    cases stage : client.caller.stage <;>
      simp_all [Bench.Caller.turn, Bench.Caller.isOver]
  rw [still]
  constructor
  · exact keeps
  · rfl
  · rfl
  · exact stands
  · exact Or.inl ended

/-- Every turn of a client leaves it where it stands, enters what it asks for
in the book, or ends with what it may return. -/
theorem Stands.turns
    (stands : client.Stands settings meters known book executor.policy)
    (keeps : port.Keeps settings meters shows known book now)
    (checked : executor.check = .crc) :
    ∃ more, client.Turns settings meters shows known (book ++ more) now
      executor (client.caller.turn executor port now) := by
  cases stands with
  | fresh stage fresh errand =>
      exact ⟨_, Stands.turns_fresh keeps checked stage fresh errand⟩
  | asks begun execution retries number stage started asks =>
      refine ⟨[], ?_⟩
      rw [List.append_nil]
      exact Stands.turns_asking keeps checked stage started asks
  | concluded begun outcome instant stage started returns =>
      refine ⟨[], ?_⟩
      rw [List.append_nil]
      apply over_turns keeps
      · simp [Bench.Caller.isOver, stage]
      · refine .concluded begun outcome instant stage ?_ returns
        simp [started]
  | gone stage =>
      refine ⟨[], ?_⟩
      rw [List.append_nil]
      apply over_turns keeps
      · simp [Bench.Caller.isOver, stage]
      · exact .gone stage

theorem Stands.leave
    (stands : client.Stands settings meters known book policy)
    (keeps : port.Keeps settings meters shows known book now) :
    (client.caller.leave port).2.Keeps settings meters shows known book now ∧
      { client with caller := (client.caller.leave port).1 }.Stands settings
        meters known book policy := by
  unfold Bench.Caller.leave
  split
  · exact ⟨keeps, stands⟩
  · refine ⟨?_, .gone rfl⟩
    split
    · exact keeps.abandon _
    · exact keeps

end Client

end MeterLine
