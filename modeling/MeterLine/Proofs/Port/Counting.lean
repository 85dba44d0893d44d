import Mathlib
import MeterLine.Proofs.Port.Standing

/-!
# Counting commands

The counters of a wire are written at four places: when a request was sent,
when a reply was received, when the port itself ran out of time, and when a
command failed.  A shift follows a worker through whatever is given to it and
keeps a receipt of every command that it served, which says what the line and
the caller saw of it.  The counters, and the ledger of whoever watches from
outside, are what follows from the receipts.
-/

namespace MeterLine

namespace Wire

@[simp] theorem traffic_hear (wire : Wire σ) (event : PortEvent) :
    (wire.hear event).traffic = wire.traffic := by
  unfold hear
  split
  · cases event <;> rfl
  · rfl

theorem traffic_foldl_hear (events : List PortEvent) (wire : Wire σ) :
    (events.foldl hear wire).traffic = wire.traffic := by
  induction events generalizing wire with
  | nil => rfl
  | cons event events induction =>
      rw [List.foldl_cons, induction, traffic_hear]

@[simp] theorem traffic_take (wire : Wire σ) (answer : LineAnswer σ α) :
    (wire.take answer).traffic = wire.traffic :=
  traffic_foldl_hear answer.events { wire with line := answer.line }

end Wire

namespace Ledger

theorem port_changePort (ledger : Ledger) (name : String)
    (update : PortTotals → PortTotals) :
    (ledger.changePort name update).port name = update (ledger.port name) :=
  find_change PortTotals.none name update ledger.ports

theorem port_changePort_of_ne (ledger : Ledger) {name other : String}
    (update : PortTotals → PortTotals) (different : other ≠ name) :
    (ledger.changePort name update).port other = ledger.port other :=
  find_change_of_ne PortTotals.none update ledger.ports different

def noteAll (ledger : Ledger) (port : String) (acts : List Act) : Ledger :=
  acts.foldr (fun act ledger => ledger.note port act) ledger

theorem noteAll_cons (ledger : Ledger) (port : String) (act : Act)
    (acts : List Act) :
    ledger.noteAll port (act :: acts) =
      (ledger.noteAll port acts).note port act := rfl

end Ledger

/-- A ledger that is told of what was done on a wire counts the same octets for
the port as the counters do, and nothing for any other port. -/
structure Wire.Told (wire : Wire σ) (name : String) : Prop where
  here : ∀ ledger : Ledger,
    (ledger.noteAll name wire.acts).port name =
      { ledger.port name with
        octetsWritten :=
          (ledger.port name).octetsWritten + wire.traffic.octetsSent
        octetsRead :=
          (ledger.port name).octetsRead + wire.traffic.octetsReceived }
  elsewhere : ∀ (ledger : Ledger) (other : String), other ≠ name →
    (ledger.noteAll name wire.acts).port other = ledger.port other

namespace Wire.Told

variable {wire after : Wire σ} {name : String} {count : Nat}

theorem same (told : wire.Told name)
    (sent : after.traffic.octetsSent = wire.traffic.octetsSent)
    (received : after.traffic.octetsReceived = wire.traffic.octetsReceived)
    (acts : after.acts = wire.acts) : after.Told name := by
  constructor
  · intro ledger
    rw [acts, sent, received]
    exact told.here ledger
  · intro ledger other different
    rw [acts]
    exact told.elsewhere ledger other different

theorem written (told : wire.Told name)
    (traffic : after.traffic = wire.traffic.sent count)
    (acts : after.acts = .written count :: wire.acts) : after.Told name := by
  constructor
  · intro ledger
    rw [acts, traffic, Ledger.noteAll_cons, Ledger.note, Ledger.written,
      Ledger.port_changePort, told.here ledger]
    simp [Traffic.sent, UInt64.add_assoc]
  · intro ledger other different
    rw [acts, Ledger.noteAll_cons, Ledger.note, Ledger.written,
      Ledger.port_changePort_of_ne _ _ different]
    exact told.elsewhere ledger other different

theorem read (told : wire.Told name)
    (traffic : after.traffic = wire.traffic.received count)
    (acts : after.acts = .read count :: wire.acts) : after.Told name := by
  constructor
  · intro ledger
    rw [acts, traffic, Ledger.noteAll_cons, Ledger.note, Ledger.read,
      Ledger.port_changePort, told.here ledger]
    simp [Traffic.received, UInt64.add_assoc]
  · intro ledger other different
    rw [acts, Ledger.noteAll_cons, Ledger.note, Ledger.read,
      Ledger.port_changePort_of_ne _ _ different]
    exact told.elsewhere ledger other different

end Wire.Told

namespace Exchange

variable {settings : PortSettings} {line : Line σ} {now : Nat}
  {request : Bytes} {wire : Wire σ} {phase : Phase} {result : Step σ}

def sends (line : Line σ) (now : Nat) (phase : Phase) (wire : Wire σ) :
    Bool :=
  match phase with
  | .flushing _ =>
      match (line.flush now wire.line).value with
      | .ready (.ok ()) => true
      | _ => false
  | _ => false

def Phase.isSent : Phase → Bool
  | .watching _ => true
  | .dozing _ _ => true
  | .polling _ _ => true
  | .reading _ _ _ _ => true
  | .resting _ _ _ => true
  | _ => false

/-- The port itself gives an exchange up: the line has not taken the request by
the deadline, or no time remains to watch for data and none were announced. -/
def expires (line : Line σ) (now : Nat) (phase : Phase) (wire : Wire σ) :
    Bool :=
  match phase with
  | .writing rest deadline =>
      !rest.isEmpty &&
        match (line.write now rest wire.line).value with
        | .pending _ => decide (deadline ≤ now)
        | _ => false
  | .flushing deadline =>
      match (line.flush now wire.line).value with
      | .pending _ => decide (deadline ≤ now)
      | _ => false
  | .watching remaining => !wire.ready && decide (remaining < 0)
  | _ => false

/-- What a step adds to the counters and to the acts of its wire, by whether
the request is sent in it and whether the port runs out of time. -/
inductive Counts (request : Bytes) (wire : Wire σ) (phase : Phase) :
    Bool → Bool → Step σ → Prop where
  | goesOn {result : Step σ} (later : Phase) (after : Wire σ) :
      result.goesOn? = some (later, after) →
      later.isSent = phase.isSent →
      after.traffic = wire.traffic → after.acts = wire.acts →
      Counts request wire phase false false result
  | sends {result : Step σ} (later : Phase) (after : Wire σ) :
      result.goesOn? = some (later, after) →
      phase.isSent = false → later.isSent = true →
      after.traffic = wire.traffic.sent request.length →
      after.acts = .written request.length :: wire.acts →
      Counts request wire phase true false result
  | fails (failure : Failure) (after : Wire σ) :
      after.traffic = wire.traffic → after.acts = wire.acts →
      Counts request wire phase false false (.done (.error failure) after)
  | expires (failure : Failure) (after : Wire σ) :
      after.traffic = wire.traffic.expired → after.acts = wire.acts →
      Counts request wire phase false true (.done (.error failure) after)
  | replies (reply : Bytes) (after : Wire σ) :
      phase.isSent = true →
      after.traffic = wire.traffic.received reply.length →
      after.acts = .read reply.length :: wire.acts →
      Counts request wire phase false false (.done (.ok reply) after)

private theorem counts_goesOn {later : Phase} {after : Wire σ}
    (silent : sends line now phase wire = false)
    (timely : expires line now phase wire = false)
    (goes : result.goesOn? = some (later, after))
    (still : later.isSent = phase.isSent)
    (traffic : after.traffic = wire.traffic) (acts : after.acts = wire.acts) :
    Counts request wire phase (sends line now phase wire)
      (expires line now phase wire) result := by
  rw [silent, timely]
  exact .goesOn later after goes still traffic acts

private theorem counts_fails {failure : Failure} {after : Wire σ}
    (silent : sends line now phase wire = false)
    (timely : expires line now phase wire = false)
    (traffic : after.traffic = wire.traffic) (acts : after.acts = wire.acts) :
    Counts request wire phase (sends line now phase wire)
      (expires line now phase wire) (.done (.error failure) after) := by
  rw [silent, timely]
  exact .fails failure after traffic acts

private theorem counts_expires {failure : Failure} {after : Wire σ}
    (silent : sends line now phase wire = false)
    (late : expires line now phase wire = true)
    (traffic : after.traffic = wire.traffic.expired)
    (acts : after.acts = wire.acts) :
    Counts request wire phase (sends line now phase wire)
      (expires line now phase wire) (.done (.error failure) after) := by
  rw [silent, late]
  exact .expires failure after traffic acts

theorem Moves.counts
    (moves : Moves settings line now request wire phase result) :
    Counts request wire phase (sends line now phase wire)
      (expires line now phase wire) result := by
  cases moves
  case flushes deadline taken =>
      have sent : sends line now (.flushing deadline) wire = true := by
        simp [sends, taken]
      have timely : expires line now (.flushing deadline) wire = false := by
        simp [expires, taken]
      rw [sent, timely]
      exact .sends _ _ rfl rfl rfl (by simp [Wire.sent, Wire.record])
        (by simp [Wire.sent, Wire.record])
  case finishes reply idle _ => exact .replies _ _ rfl rfl rfl
  case writeExpires rest deadline wake more late value =>
      apply counts_expires <;>
        simp [sends, expires, Wire.expired, value, more, late]
  case flushExpires deadline wake late value =>
      apply counts_expires <;>
        simp [sends, expires, Wire.expired, value, late]
  case watchExpires remaining silent late =>
      apply counts_expires <;>
        simp [sends, expires, Wire.expired, silent, late]
  case drainFails | discardFails | writeFails | writesNothing | flushFails |
      watchFails | pollFails | readFails =>
      apply counts_fails <;> simp [sends, expires, *]
  all_goals
    refine counts_goesOn ?_ ?_ rfl ?_ ?_ ?_ <;>
      simp [sends, expires, Phase.isSent, Wire.clear, *]

end Exchange

/-- What is known of a command that was served. -/
structure Receipt where
  request : Bytes
  sent : Bool
  expired : Bool
  outcome : Except Failure Bytes

namespace Receipt

def replied (receipt : Receipt) : Bool :=
  receipt.outcome.isOk

def replyLength (receipt : Receipt) : Nat :=
  match receipt.outcome with
  | .ok reply => reply.length
  | .error _ => 0

/-- A reply follows a request that was sent, and the port does not run out of
time on it. -/
structure Sound (receipt : Receipt) : Prop where
  sent : receipt.replied = true → receipt.sent = true
  timely : receipt.expired = true → receipt.replied = false

end Receipt

namespace Worker

/-- What may be given to a worker. -/
inductive Input where
  | queue (command : Command)
  | hear (event : PortEvent)
  | shut
  | halt
  | turn (now : Nat)

structure Shift (σ : Type) where
  worker : Worker
  wire : Wire σ
  sent : Bool
  receipts : List Receipt

namespace Shift

def fresh (state : σ) (ready : Bool) : Shift σ :=
  { worker := Worker.fresh
    wire := { Wire.fresh state with ready := ready, listening := true }
    sent := false
    receipts := [] }

/-- The worker gets a turn.  What it answers while a command is in hand is the
outcome of that command. -/
def turn (settings : PortSettings) (line : Line σ) (now : Nat)
    (shift : Shift σ) : Shift σ :=
  let progress := shift.worker.step settings line now shift.wire
  match shift.worker.inHand? with
  | none =>
      { shift with
        worker := progress.worker
        wire := progress.wire }
  | some (command, phase) =>
      let sent := shift.sent || Exchange.sends line now phase shift.wire
      { worker := progress.worker
        wire := progress.wire
        sent := sent && progress.answers.isEmpty
        receipts := shift.receipts ++ progress.answers.map fun answer =>
          { request := command.request
            sent := sent
            expired := Exchange.expires line now phase shift.wire
            outcome := answer.outcome } }

def perform (settings : PortSettings) (line : Line σ) (shift : Shift σ) :
    Input → Shift σ
  | .queue command =>
      if shift.worker.accepts then
        { shift with worker := shift.worker.enqueue command }
      else shift
  | .hear event => { shift with wire := shift.wire.hear event }
  | .shut => { shift with worker := { shift.worker with closed := true } }
  | .halt => { shift with worker := { shift.worker with stopping := true } }
  | .turn now => shift.turn settings line now

def run (settings : PortSettings) (line : Line σ) (inputs : List Input)
    (shift : Shift σ) : Shift σ :=
  inputs.foldl (perform settings line) shift

/-- Requests that were sent, first one first: those of commands that were
served, and that of the command in hand. -/
def requests (shift : Shift σ) : List Bytes :=
  (shift.receipts.filter (·.sent)).map (·.request) ++
    if shift.sent then
      (shift.worker.inHand?.map fun hand => hand.1.request).toList
    else []

/-- The counters that the receipts account for. -/
def counters (shift : Shift σ) : Traffic :=
  { commandsSent := .ofNat shift.requests.length
    repliesReceived := .ofNat (shift.receipts.countP Receipt.replied)
    errors := .ofNat (shift.receipts.countP fun receipt => !receipt.replied)
    timeouts := .ofNat (shift.receipts.countP (·.expired))
    octetsSent := .ofNat (shift.requests.map List.length).sum
    octetsReceived := .ofNat (shift.receipts.map Receipt.replyLength).sum }

end Shift

variable {settings : PortSettings} {worker : Worker} {command : Command}
  {phase : Exchange.Phase}

/-- A worker without a command in hand leaves its wire alone, and at most takes
the next command. -/
theorem step_of_rest (settings : PortSettings) (line : Line σ) (now : Nat)
    (wire : Wire σ) (nothing : worker.inHand? = none) :
    (worker.step settings line now wire).wire = wire ∧
      ((worker.step settings line now wire).worker.inHand? = none ∨
        ∃ command, (worker.step settings line now wire).worker.inHand? =
          some (command, Exchange.start)) := by
  cases stage : worker.stage with
  | busy command phase => simp [inHand?, stage] at nothing
  | stopped => simp [step, stage, inHand?]
  | idle =>
      cases stopping : worker.stopping with
      | true => simp [step, stage, stopping, stop, inHand?]
      | false =>
          cases queue : worker.queue with
          | cons command rest =>
              simp [step, stage, stopping, queue, inHand?]
          | nil =>
              cases closed : worker.closed <;>
                simp [step, stage, stopping, queue, closed, stop, inHand?]

theorem step_of_busy (settings : PortSettings) (line : Line σ) (now : Nat)
    (wire : Wire σ) (busy : worker.stage = .busy command phase) :
    (∃ later after,
      (Exchange.step settings line now command.request phase
        wire).goesOn? = some (later, after) ∧
      (worker.step settings line now wire).worker =
        { worker with stage := .busy command later } ∧
      (worker.step settings line now wire).wire = after ∧
      (worker.step settings line now wire).answers = []) ∨
    ∃ outcome after,
      Exchange.step settings line now command.request phase wire =
        .done outcome after ∧
      (worker.step settings line now wire).worker =
        { worker with stage := .idle } ∧
      (worker.step settings line now wire).wire =
        (if outcome.isOk then after.clear else after.clear.failed) ∧
      (worker.step settings line now wire).answers =
        [{ number := command.number
           outcome := outcome }] := by
  cases result : Exchange.step settings line now command.request phase
      wire with
  | next later after =>
      exact Or.inl ⟨later, after, rfl, by simp [step, busy, result]⟩
  | wait later after wake =>
      exact Or.inl ⟨later, after, rfl, by simp [step, busy, result]⟩
  | done outcome after =>
      exact Or.inr ⟨outcome, after, rfl, by simp [step, busy, result, answer]⟩

namespace Shift

/-- The counters and the ledger are what follows from the receipts. -/
structure Balanced (settings : PortSettings) (shift : Shift σ) : Prop where
  counted : shift.wire.traffic = shift.counters
  told : shift.wire.Told settings.name
  stands : shift.sent =
    (shift.worker.inHand?.map fun hand => hand.2.isSent).getD false
  sound : ∀ receipt ∈ shift.receipts, receipt.Sound

variable {shift : Shift σ}

namespace Balanced

theorem fresh (settings : PortSettings) (state : σ) (ready : Bool) :
    (Shift.fresh state ready).Balanced settings := by
  constructor
  · rfl
  · constructor
    · intro ledger
      simp [Shift.fresh, Wire.fresh, Ledger.noteAll, Traffic.zero]
    · intro ledger other _
      rfl
  · rfl
  · intro receipt member
    cases member

theorem keep (balanced : shift.Balanced settings) {after : Shift σ}
    (receipts : after.receipts = shift.receipts)
    (requests : after.requests = shift.requests)
    (stands : after.sent =
      (after.worker.inHand?.map fun hand => hand.2.isSent).getD false)
    (traffic : after.wire.traffic = shift.wire.traffic)
    (acts : after.wire.acts = shift.wire.acts) :
    after.Balanced settings := by
  have told : after.wire.Told settings.name :=
    balanced.told.same (by rw [traffic]) (by rw [traffic]) acts
  refine ⟨?_, told, stands, ?_⟩
  · rw [traffic, balanced.counted, counters, counters, requests, receipts]
  · rw [receipts]
    exact balanced.sound

theorem rest (balanced : shift.Balanced settings)
    (nothing : shift.worker.inHand? = none) (line : Line σ) (now : Nat) :
    (shift.turn settings line now).Balanced settings := by
  obtain ⟨still, hand⟩ := step_of_rest settings line now shift.wire nothing
  have unsent : shift.sent = false := by
    rw [balanced.stands, nothing]
    rfl
  simp only [turn, nothing]
  apply balanced.keep
  · rfl
  · simp [requests, unsent]
  · rcases hand with none_ | ⟨command, begun⟩
    · rw [none_, unsent]
      rfl
    · rw [begun, unsent]
      rfl
  · rw [still]
  · rw [still]

end Balanced

def conclude (shift : Shift σ) (wire : Wire σ) (receipt : Receipt) :
    Shift σ :=
  { worker := { shift.worker with stage := .idle }
    wire := wire
    sent := false
    receipts := shift.receipts ++ [receipt] }

theorem requests_conclude (busy : shift.worker.stage = .busy command phase)
    (wire : Wire σ) {receipt : Receipt}
    (request : receipt.request = command.request)
    (sent : receipt.sent = shift.sent) :
    (shift.conclude wire receipt).requests = shift.requests := by
  have hand := inHand?_of_busy busy
  cases known : shift.sent <;>
    simp [requests, conclude, hand, known, sent, request, List.filter_append]

theorem counters_conclude (busy : shift.worker.stage = .busy command phase)
    (wire : Wire σ) {receipt : Receipt}
    (request : receipt.request = command.request)
    (sent : receipt.sent = shift.sent) :
    (shift.conclude wire receipt).counters =
      { shift.counters with
        repliesReceived := shift.counters.repliesReceived +
          if receipt.replied then 1 else 0
        errors := shift.counters.errors +
          if receipt.replied then 0 else 1
        timeouts := shift.counters.timeouts +
          if receipt.expired then 1 else 0
        octetsReceived := shift.counters.octetsReceived +
          .ofNat receipt.replyLength } := by
  have same := requests_conclude busy wire request sent
  simp only [counters, same, Traffic.mk.injEq, true_and]
  simp only [conclude, List.countP_append, List.countP_singleton,
    List.map_append, List.map_cons, List.map_nil, List.sum_append,
    List.sum_singleton, UInt64.ofNat_add]
  cases receipt.replied <;> cases receipt.expired <;> simp

/-- An exchange in hand goes on, or its command leaves a receipt. -/
theorem turn_of_busy (settings : PortSettings) (line : Line σ) (now : Nat)
    (busy : shift.worker.stage = .busy command phase) :
    (∃ later after,
      (Exchange.step settings line now command.request phase
        shift.wire).goesOn? = some (later, after) ∧
      shift.turn settings line now =
        { shift with
          worker := { shift.worker with stage := .busy command later }
          wire := after
          sent := shift.sent ||
            Exchange.sends line now phase shift.wire }) ∨
    ∃ outcome after,
      Exchange.step settings line now command.request phase shift.wire =
        .done outcome after ∧
      shift.turn settings line now =
        shift.conclude
          (if outcome.isOk then after.clear else after.clear.failed)
          { request := command.request
            sent := shift.sent || Exchange.sends line now phase shift.wire
            expired := Exchange.expires line now phase shift.wire
            outcome := outcome } := by
  have hand := inHand?_of_busy busy
  rcases step_of_busy settings line now shift.wire busy with
    ⟨later, after, goes, worker, wire, silent⟩ |
    ⟨outcome, after, done, worker, wire, answered⟩
  · refine Or.inl ⟨later, after, goes, ?_⟩
    simp [Shift.turn, hand, worker, wire, silent]
  · refine Or.inr ⟨outcome, after, done, ?_⟩
    simp [Shift.turn, conclude, hand, worker, wire, answered]

namespace Balanced

theorem send (balanced : shift.Balanced settings)
    (busy : shift.worker.stage = .busy command phase)
    (unsent : phase.isSent = false) {later : Exchange.Phase}
    (sent : later.isSent = true) {wire : Wire σ}
    (traffic : wire.traffic = shift.wire.traffic.sent command.request.length)
    (acts : wire.acts = .written command.request.length :: shift.wire.acts) :
    Balanced settings
      { shift with
        worker := { shift.worker with stage := .busy command later }
        wire := wire
        sent := true } := by
  have before : shift.sent = false := by
    rw [balanced.stands, inHand?_of_busy busy]
    exact unsent
  refine ⟨?_, balanced.told.written traffic acts, sent.symm, balanced.sound⟩
  rw [traffic, balanced.counted]
  simp [counters, requests, inHand?, Traffic.sent, before, UInt64.ofNat_add]

/-- A command comes to its outcome, and is counted as what its receipt
says. -/
theorem finish (balanced : shift.Balanced settings)
    (busy : shift.worker.stage = .busy command phase) {wire : Wire σ}
    {receipt : Receipt} (request : receipt.request = command.request)
    (sent : receipt.sent = shift.sent) (sound : receipt.Sound)
    (told : wire.Told settings.name)
    (traffic : wire.traffic =
      { shift.wire.traffic with
        repliesReceived := shift.wire.traffic.repliesReceived +
          if receipt.replied then 1 else 0
        errors := shift.wire.traffic.errors +
          if receipt.replied then 0 else 1
        timeouts := shift.wire.traffic.timeouts +
          if receipt.expired then 1 else 0
        octetsReceived := shift.wire.traffic.octetsReceived +
          .ofNat receipt.replyLength }) :
    (shift.conclude wire receipt).Balanced settings := by
  refine ⟨?_, told, rfl, ?_⟩
  · rw [counters_conclude busy wire request sent, ← balanced.counted]
    exact traffic
  · intro known member
    rcases List.mem_append.mp member with old | new
    · exact balanced.sound known old
    · rw [List.mem_singleton.mp new]
      exact sound

theorem fail (balanced : shift.Balanced settings)
    (busy : shift.worker.stage = .busy command phase) (wire : Wire σ)
    (failure : Failure) (expired : Bool)
    (traffic : wire.traffic =
      if expired then shift.wire.traffic.expired.failed
      else shift.wire.traffic.failed)
    (acts : wire.acts = shift.wire.acts) :
    (shift.conclude wire
      { request := command.request
        sent := shift.sent
        expired := expired
        outcome := .error failure }).Balanced settings := by
  have told : wire.Told settings.name := by
    apply balanced.told.same _ _ acts <;>
      cases expired <;> simp [traffic, Traffic.failed, Traffic.expired]
  apply balanced.finish busy rfl rfl _ told
  · cases expired <;>
      simp [traffic, Traffic.failed, Traffic.expired, Receipt.replied,
        Receipt.replyLength, Except.isOk, Except.toBool]
  · constructor
    · intro replied
      cases replied
    · intro _
      rfl

theorem reply (balanced : shift.Balanced settings)
    (busy : shift.worker.stage = .busy command phase) (wire : Wire σ)
    (sent : shift.sent = true) (octets : Bytes)
    (traffic : wire.traffic = shift.wire.traffic.received octets.length)
    (acts : wire.acts = .read octets.length :: shift.wire.acts) :
    (shift.conclude wire
      { request := command.request
        sent := shift.sent
        expired := false
        outcome := .ok octets }).Balanced settings := by
  apply balanced.finish busy rfl rfl _ (balanced.told.read traffic acts)
  · simp [traffic, Traffic.received, Receipt.replied, Receipt.replyLength,
      Except.isOk, Except.toBool]
  · constructor
    · intro _
      exact sent
    · intro expired
      cases expired

theorem turn_busy (balanced : shift.Balanced settings)
    (busy : shift.worker.stage = .busy command phase) (line : Line σ)
    (now : Nat) : (shift.turn settings line now).Balanced settings := by
  have stands : shift.sent = phase.isSent := by
    rw [balanced.stands, inHand?_of_busy busy]
    rfl
  have counts := (Exchange.step_moves settings line now command.request phase
    shift.wire).counts
  -- A step that goes on counts nothing or the request, and one that is done
  -- counts its outcome; the other cases of `Counts` do not fit the step.
  rcases turn_of_busy settings line now busy with
    ⟨later, after, goes, turned⟩ | ⟨outcome, after, done, turned⟩
  · rw [turned]
    generalize Exchange.step settings line now command.request phase
      shift.wire = result at counts goes
    generalize Exchange.sends line now phase shift.wire = sends at counts ⊢
    generalize Exchange.expires line now phase shift.wire = expires at counts
    cases counts with
    | goesOn _ _ same still traffic acts =>
        cases same.symm.trans goes
        rw [Bool.or_false]
        apply balanced.keep
        · rfl
        · simp [requests, inHand?, busy]
        · rw [stands]
          exact still.symm
        · exact traffic
        · exact acts
    | sends _ _ same unsent sent traffic acts =>
        cases same.symm.trans goes
        rw [Bool.or_true]
        exact balanced.send busy unsent sent traffic acts
    | fails => cases goes
    | expires => cases goes
    | replies => cases goes
  · rw [turned]
    rw [done] at counts
    generalize Exchange.sends line now phase shift.wire = sends at counts ⊢
    generalize Exchange.expires line now phase shift.wire = expires at counts ⊢
    cases counts with
    | goesOn _ _ goes => cases goes
    | sends _ _ goes => cases goes
    | fails failure _ traffic acts =>
        rw [Bool.or_false]
        exact balanced.fail busy after.clear.failed failure false
          (congrArg Traffic.failed traffic) acts
    | expires failure _ traffic acts =>
        rw [Bool.or_false]
        exact balanced.fail busy after.clear.failed failure true
          (congrArg Traffic.failed traffic) acts
    | replies octets _ sent traffic acts =>
        rw [Bool.or_false]
        exact balanced.reply busy after.clear (stands.trans sent) octets
          traffic acts

theorem turn (balanced : shift.Balanced settings) (line : Line σ)
    (now : Nat) : (shift.turn settings line now).Balanced settings := by
  cases stage : shift.worker.stage with
  | busy command phase => exact balanced.turn_busy stage line now
  | idle => exact balanced.rest (by simp [inHand?, stage]) line now
  | stopped => exact balanced.rest (by simp [inHand?, stage]) line now

theorem perform (balanced : shift.Balanced settings) (line : Line σ)
    (input : Input) :
    (Shift.perform settings line shift input).Balanced settings := by
  cases input with
  | turn now => exact balanced.turn line now
  | queue command =>
      cases accepts : shift.worker.accepts with
      | false => simpa [Shift.perform, accepts] using balanced
      | true =>
          simp only [Shift.perform, accepts, if_true]
          exact balanced.keep rfl rfl balanced.stands rfl rfl
  | hear event =>
      refine balanced.keep ?_ ?_ balanced.stands
        (Wire.traffic_hear shift.wire event) (Wire.acts_hear shift.wire event)
      · rfl
      · rfl
  | shut => exact balanced.keep rfl rfl balanced.stands rfl rfl
  | halt => exact balanced.keep rfl rfl balanced.stands rfl rfl

theorem run (balanced : shift.Balanced settings) (line : Line σ)
    (inputs : List Input) :
    (Shift.run settings line inputs shift).Balanced settings := by
  induction inputs generalizing shift with
  | nil => exact balanced
  | cons input inputs induction =>
      exact induction (balanced.perform line input)

end Balanced

theorem Balanced.replies_le_requests (balanced : shift.Balanced settings) :
    shift.receipts.countP Receipt.replied ≤ shift.requests.length := by
  calc
    shift.receipts.countP Receipt.replied
        ≤ shift.receipts.countP (·.sent) := by
      apply List.countP_mono_left
      intro receipt member
      exact (balanced.sound receipt member).sent
    _ = (shift.receipts.filter (·.sent)).length :=
      List.countP_eq_length_filter
    _ ≤ shift.requests.length := by
      simp [requests]

theorem Balanced.expiries_le_failures (balanced : shift.Balanced settings) :
    shift.receipts.countP (·.expired) ≤
      shift.receipts.countP fun receipt => !receipt.replied := by
  apply List.countP_mono_left
  intro receipt member expired
  rw [(balanced.sound receipt member).timely expired]
  rfl

/-- Reduction modulo the range of a counter keeps the order of two counts, as
long as the greater one is within the range. -/
private theorem ofNat_le_ofNat {less more : Nat} (le : less ≤ more)
    (within : more < 2 ^ 64) : UInt64.ofNat less ≤ UInt64.ofNat more := by
  rw [UInt64.le_iff_toNat_le, UInt64.toNat_ofNat', UInt64.toNat_ofNat',
    Nat.mod_eq_of_lt within, Nat.mod_eq_of_lt (by omega)]
  exact le

/-- Whatever a worker is given and however its line behaves, its counters are
what the receipts of its commands come to, each within the range of a counter.
A ledger that is told of what the worker did gains as many octets for the port
as its counters show, and keeps the totals of every other port. -/
theorem every_command_counted (settings : PortSettings) (line : Line σ)
    (state : σ) (ready : Bool) (inputs : List Input) :
    let shift := Shift.run settings line inputs (Shift.fresh state ready)
    let replies := shift.receipts.countP Receipt.replied
    let failures := shift.receipts.countP fun receipt => !receipt.replied
    let expiries := shift.receipts.countP (·.expired)
    let traffic := shift.wire.traffic
    replies + failures = shift.receipts.length ∧
      traffic =
        { commandsSent := .ofNat shift.requests.length
          repliesReceived := .ofNat replies
          errors := .ofNat failures
          timeouts := .ofNat expiries
          octetsSent := .ofNat (shift.requests.map List.length).sum
          octetsReceived :=
            .ofNat (shift.receipts.map Receipt.replyLength).sum } ∧
      (shift.requests.length < 2 ^ 64 →
        traffic.repliesReceived ≤ traffic.commandsSent) ∧
      (failures < 2 ^ 64 → traffic.timeouts ≤ traffic.errors) ∧
      ∀ ledger : Ledger,
        (ledger.noteAll settings.name shift.wire.acts).port settings.name =
            { ledger.port settings.name with
              octetsWritten :=
                (ledger.port settings.name).octetsWritten + traffic.octetsSent
              octetsRead :=
                (ledger.port settings.name).octetsRead +
                  traffic.octetsReceived } ∧
          ∀ other, other ≠ settings.name →
            (ledger.noteAll settings.name shift.wire.acts).port other =
              ledger.port other := by
  intro shift replies failures expiries traffic
  have balanced : shift.Balanced settings :=
    (Balanced.fresh settings state ready).run line inputs
  have counted : traffic = shift.counters := balanced.counted
  refine ⟨?_, counted, ?_, ?_, ?_⟩
  · simpa using (List.length_eq_countP_add_countP Receipt.replied).symm
  · intro within
    rw [counted]
    exact ofNat_le_ofNat balanced.replies_le_requests within
  · intro within
    rw [counted]
    exact ofNat_le_ofNat balanced.expiries_le_failures within
  · intro ledger
    exact ⟨balanced.told.here ledger, balanced.told.elsewhere ledger⟩

theorem echo_counted :
    let inputs : List Input :=
      .queue { number := 0, request := [6, 7] } ::
        (List.range 60).map fun count => .turn count
    let shift := Shift.run (PortSettings.named "echo") EchoLine.interface
      inputs (Shift.fresh EchoLine.fresh false)
    shift.requests = [[6, 7]] ∧ shift.receipts.length = 1 ∧
      shift.wire.traffic.repliesReceived ≤ shift.wire.traffic.commandsSent ∧
      shift.wire.traffic.timeouts ≤ shift.wire.traffic.errors := by
  obtain ⟨_, _, replies, expiries, _⟩ :=
    every_command_counted (PortSettings.named "echo") EchoLine.interface
      EchoLine.fresh false
      (.queue { number := 0, request := [6, 7] } ::
        (List.range 60).map fun count => .turn count)
  exact ⟨by decide +kernel, by decide +kernel, replies (by decide +kernel),
    expiries (by decide +kernel)⟩

end Shift

end Worker

end MeterLine
