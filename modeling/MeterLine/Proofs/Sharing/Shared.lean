import MeterLine.Proofs.Sharing.Clients

/-!
# A port shared by clients

Any number of clients share one running port on a line with meters.  Time
passes, calls are made, clients take turns or go away, the worker and the
supervisor take steps, and arrivals are announced, all in any order.  Whatever
the order, a client is told the reading of the reply that its own meter sent
for its own register, or that time ran out.
-/

namespace MeterLine

/-- A port at an instant, the executors that use it, and their clients. -/
structure SharedPort (σ : Type) where
  now : Nat
  port : Port σ
  executors : List Executor
  clients : List Client

inductive SharedPort.Move where
  | pass (time : Nat)
  /-- An executor is called upon. -/
  | call (executor : Nat) (function : MeterFunction) (device : UInt8)
      (register : Register)
  | turn (position : Nat)
  | leave (position : Nat)
  | work
  | supervise
  | announce (ready before : Bool)

def Client.fresh (executor : Nat) (function : MeterFunction) (device : UInt8)
    (register : Register) (request : Request) : Client :=
  { executor := executor
    function := function
    device := device
    register := register
    begun := none
    caller := Bench.Caller.fresh 0 (.function function request) }

namespace SharedPort

def call (shared : SharedPort σ) (executor : Nat) (function : MeterFunction)
    (device : UInt8) (register : Register) : SharedPort σ :=
  match shared.executors[executor]?,
      Request.ofFunction function device register with
  | some _, .ok request =>
      { shared with
        clients := shared.clients ++
          [Client.fresh executor function device register request] }
  | _, _ => shared

def turn (shared : SharedPort σ) (position : Nat) : SharedPort σ :=
  match shared.clients[position]? with
  | some client =>
      match shared.executors[client.executor]? with
      | some executor =>
          let turned := client.caller.turn executor shared.port shared.now
          { shared with
            port := turned.port
            executors := shared.executors.set client.executor turned.executor
            clients :=
              shared.clients.set position (client.after shared.now turned) }
      | none => shared
  | none => shared

theorem turn_eq {shared : SharedPort σ} {position : Nat} {client : Client}
    (found : shared.clients[position]? = some client) {executor : Executor}
    (chosen : shared.executors[client.executor]? = some executor) :
    shared.turn position =
      let turned := client.caller.turn executor shared.port shared.now
      { shared with
        port := turned.port
        executors := shared.executors.set client.executor turned.executor
        clients :=
          shared.clients.set position (client.after shared.now turned) } := by
  simp [turn, found, chosen]

def leave (shared : SharedPort σ) (position : Nat) : SharedPort σ :=
  match shared.clients[position]? with
  | some client =>
      let left := client.caller.leave shared.port
      { shared with
        port := left.2
        clients := shared.clients.set position
          { client with caller := left.1 } }
  | none => shared

/-- Make a move.  Nothing is announced but at the instant of an arrival. -/
def perform (line : Line σ) (shows : σ → LineView) (shared : SharedPort σ) :
    Move → SharedPort σ
  | .pass time => { shared with now := shared.now + time }
  | .call executor function device register =>
      shared.call executor function device register
  | .turn position => shared.turn position
  | .leave position => shared.leave position
  | .work =>
      { shared with port := shared.port.perform line shared.now .work }
  | .supervise =>
      { shared with port := shared.port.perform line shared.now .supervise }
  | .announce ready before =>
      if ((shows shared.port.wire.line).seen shared.now).arrival =
          some shared.now then
        { shared with
          port := shared.port.perform line shared.now
            (.raise (.dataAvailable ready before)) }
      else shared

def run (line : Line σ) (shows : σ → LineView) (moves : List Move)
    (shared : SharedPort σ) : SharedPort σ :=
  moves.foldl (perform line shows) shared

/-- A running port without clients, on a line on which nothing is on its
way. -/
structure Rests (settings : PortSettings) (shows : σ → LineView)
    (shared : SharedPort σ) : Prop where
  named : shared.port.settings = settings
  runs : shared.port.Runs
  idle : shared.port.worker.stage = .idle
  queue : shared.port.worker.queue = []
  known : ∀ answer ∈ shared.port.answers,
    answer.number ≤ shared.port.commands
  taken : (shows shared.port.wire.line).taken = []
  quiet : (shows shared.port.wire.line).Quiet shared.now
  checks : ∀ executor ∈ shared.executors, executor.check = .crc
  clients : shared.clients = []

/-- The port keeps its book, the executors keep their check and their policies,
and every client stands where the book says. -/
structure Agrees (settings : PortSettings) (meters : Meters)
    (shows : σ → LineView) (known : Nat) (policies : List RetryPolicy)
    (book : List Booking) (shared : SharedPort σ) : Prop where
  keeps : shared.port.Keeps settings meters shows known book shared.now
  kept : shared.executors.map (·.policy) = policies
  checks : ∀ executor ∈ shared.executors, executor.check = .crc
  clients : ∀ client ∈ shared.clients, ∃ policy : RetryPolicy,
    policies[client.executor]? = some policy ∧
      client.Stands settings meters known book policy

section

variable {settings : PortSettings} {meters : Meters} {line : Line σ}
  {shows : σ → LineView} {known : Nat} {policies : List RetryPolicy}
  {book : List Booking} {shared : SharedPort σ}

theorem Rests.agrees (rests : shared.Rests settings shows) :
    shared.Agrees settings meters shows shared.port.commands
      (shared.executors.map (·.policy)) [] := by
  have stage := rests.idle
  constructor
  · constructor
    · exact rests.named
    · exact rests.runs
    · rfl
    · intro entry member
      cases member
    · intro command member
      rw [rests.queue] at member
      cases member
    · intro _
      exact ⟨stage, rests.taken, rests.quiet⟩
    · intro command phase busy
      rw [stage] at busy
      cases busy
    · intro answer member
      exact Or.inl (rests.known answer member)
  · rfl
  · exact rests.checks
  · intro client member
    rw [rests.clients] at member
    cases member

namespace Agrees

theorem call
    (agrees : shared.Agrees settings meters shows known policies book)
    (executor : Nat) (function : MeterFunction) (device : UInt8)
    (register : Register) :
    (shared.call executor function device register).Agrees settings meters
      shows known policies book := by
  unfold SharedPort.call
  split
  case h_1 first request found admitted =>
      have read : request = Request.read device register := by
        unfold Request.ofFunction at admitted
        split at admitted
        · cases admitted
          rfl
        · cases admitted
      constructor
      · exact agrees.keeps
      · exact agrees.kept
      · exact agrees.checks
      · intro client member
        rcases List.mem_append.mp member with old | new
        · exact agrees.clients client old
        · rw [List.mem_singleton.mp new]
          refine ⟨first.policy, ?_, .fresh rfl rfl ?_⟩
          · rw [← agrees.kept, List.getElem?_map]
            exact congrArg (Option.map _) found
          · rw [read]
            rfl
  case h_2 => exact agrees

theorem turn_at
    (agrees : shared.Agrees settings meters shows known policies book)
    {position : Nat} {client : Client}
    (found : shared.clients[position]? = some client) :
    ∃ executor more,
      shared.executors[client.executor]? = some executor ∧
        policies[client.executor]? = some executor.policy ∧
        client.Turns settings meters shows known (book ++ more) shared.now
          executor (client.caller.turn executor shared.port shared.now) := by
  obtain ⟨policy, here, stands⟩ :=
    agrees.clients client (List.mem_of_getElem? found)
  have mapped := here
  rw [← agrees.kept, List.getElem?_map] at mapped
  obtain ⟨executor, chosen, rfl⟩ := Option.map_eq_some_iff.mp mapped
  have checked := agrees.checks executor (List.mem_of_getElem? chosen)
  obtain ⟨more, turns⟩ := stands.turns agrees.keeps checked
  exact ⟨executor, more, chosen, here, turns⟩

theorem turn
    (agrees : shared.Agrees settings meters shows known policies book)
    (position : Nat) :
    ∃ more, (shared.turn position).Agrees settings meters shows known
      policies (book ++ more) := by
  cases found : shared.clients[position]? with
  | none =>
      refine ⟨[], ?_⟩
      rw [List.append_nil]
      simp only [SharedPort.turn, found]
      exact agrees
  | some client =>
      obtain ⟨executor, more, chosen, policy, turns⟩ := agrees.turn_at found
      refine ⟨more, ?_⟩
      rw [turn_eq found chosen]
      constructor
      · exact turns.keeps
      · rw [← agrees.kept, List.map_set, turns.policy]
        obtain ⟨inside, rfl⟩ := List.getElem?_eq_some_iff.mp chosen
        rw [← List.map_set, List.set_getElem_self]
      · intro other member
        rcases List.mem_or_eq_of_mem_set member with old | rfl
        · exact agrees.checks other old
        · rw [turns.check]
          exact agrees.checks executor (List.mem_of_getElem? chosen)
      · intro other member
        rcases List.mem_or_eq_of_mem_set member with old | rfl
        · obtain ⟨first, there, stands⟩ := agrees.clients other old
          exact ⟨first, there, stands.append more⟩
        · exact ⟨executor.policy, policy, turns.stands⟩

theorem leave
    (agrees : shared.Agrees settings meters shows known policies book)
    (position : Nat) :
    (shared.leave position).Agrees settings meters shows known policies
      book := by
  unfold SharedPort.leave
  split
  case h_2 => exact agrees
  case h_1 client found =>
      obtain ⟨policy, here, stands⟩ :=
        agrees.clients client (List.mem_of_getElem? found)
      obtain ⟨keeps, gone⟩ := stands.leave agrees.keeps
      constructor
      · exact keeps
      · exact agrees.kept
      · exact agrees.checks
      · intro other member
        rcases List.mem_or_eq_of_mem_set member with old | rfl
        · exact agrees.clients other old
        · exact ⟨policy, here, gone⟩

theorem perform (metered : line.Metered settings meters shows)
    (short : settings.wait < 2 ^ 63)
    (agrees : shared.Agrees settings meters shows known policies book)
    (move : Move) :
    ∃ more, (shared.perform line shows move).Agrees settings meters shows
      known policies (book ++ more) := by
  have still : ∀ next : SharedPort σ,
      next.Agrees settings meters shows known policies book →
        ∃ more, next.Agrees settings meters shows known policies
          (book ++ more) := by
    intro next kept
    refine ⟨[], ?_⟩
    rw [List.append_nil]
    exact kept
  cases move with
  | pass time =>
      apply still
      exact
        { agrees with keeps := agrees.keeps.later (Nat.le_add_right _ _) }
  | call executor function device register =>
      apply still
      exact agrees.call executor function device register
  | turn position => exact agrees.turn position
  | leave position =>
      apply still
      exact agrees.leave position
  | work =>
      apply still
      exact { agrees with keeps := agrees.keeps.work metered short }
  | supervise =>
      apply still
      have same := agrees.keeps.runs.supervise shared.now
      exact
        { agrees with
          keeps := by
            change Port.Keeps settings meters shows known book shared.now
              (shared.port.supervise shared.now)
            rw [same]
            exact agrees.keeps }
  | announce ready before =>
      apply still
      simp only [SharedPort.perform]
      split
      case isTrue arrived =>
          exact
            { agrees with
              keeps := agrees.keeps.announce arrived ready before }
      case isFalse => exact agrees

theorem run (metered : line.Metered settings meters shows)
    (short : settings.wait < 2 ^ 63) (moves : List Move) :
    ∀ {shared : SharedPort σ} {book : List Booking},
      shared.Agrees settings meters shows known policies book →
        ∃ more, (shared.run line shows moves).Agrees settings meters shows
          known policies more := by
  induction moves with
  | nil => exact fun agrees => ⟨_, agrees⟩
  | cons move moves induction =>
      intro shared book agrees
      obtain ⟨more, performed⟩ := agrees.perform metered short move
      exact induction performed

end Agrees

end

/-- Whatever the order of moves, a client that was told something was told the
reading of the reply that its own meter sent for its own register, that this
meter is silent, or that the time of its execution was over.  A client that has
had a turn was told something, went away, or has time left. -/
theorem calls_return_own_readings {settings : PortSettings} {meters : Meters}
    {line : Line σ} {shows : σ → LineView}
    (metered : line.Metered settings meters shows)
    (short : settings.wait < 2 ^ 63) {start : SharedPort σ}
    (rests : start.Rests settings shows) (moves : List Move) :
    let shared := start.run line shows moves
    (∀ client ∈ shared.clients, ∀ outcome instant,
      client.caller.stage = .concluded outcome instant →
        ∃ executor begun,
          start.executors[client.executor]? = some executor ∧
            client.begun = some begun ∧
            Client.Returns settings meters executor.policy client.function
              (client.booking begun) instant outcome) ∧
      ∀ position client,
        (shared.turn position).clients[position]? = some client →
          (∃ outcome instant,
            client.caller.stage = .concluded outcome instant) ∨
          client.caller.stage = .gone ∨
          ∃ executor begun,
            start.executors[client.executor]? = some executor ∧
              client.begun = some begun ∧
              shared.now < begun + executor.policy.deadline := by
  intro shared
  have before : start.Agrees settings meters shows start.port.commands
      (start.executors.map (·.policy)) [] := rests.agrees
  obtain ⟨book, agrees⟩ := before.run metered short moves
  constructor
  · intro client member outcome instant stage
    obtain ⟨policy, mapped, stands⟩ := agrees.clients client member
    rw [List.getElem?_map] at mapped
    obtain ⟨executor, chosen, rfl⟩ := Option.map_eq_some_iff.mp mapped
    obtain ⟨begun, started, returns⟩ := stands.returns stage
    exact ⟨executor, begun, chosen, started, returns⟩
  · intro position client after
    cases found : shared.clients[position]? with
    | none =>
        simp only [turn, found] at after
        cases after
    | some old =>
        obtain ⟨executor, more, chosen, policy, turns⟩ :=
          Agrees.turn_at agrees found
        rw [turn_eq found chosen] at after
        have inside := (List.getElem?_eq_some_iff.mp found).1
        rw [List.getElem?_set_self inside] at after
        cases after
        rw [List.getElem?_map] at policy
        obtain ⟨first, here, same⟩ := Option.map_eq_some_iff.mp policy
        rcases turns.timely with ended | timely
        · rcases turns.stands.over_cases ended with told | gone
          · exact Or.inl told
          · exact Or.inr (Or.inl gone)
        · refine Or.inr (Or.inr ⟨first, _, here, rfl, ?_⟩)
          rw [same]
          exact timely

end SharedPort

namespace TwoMeters

/-- The meter with address 2 answers, any other one is silent. -/
def meters : Meters :=
  { data := fun _ device _ =>
      if device = 2 then some [9, 196, 0, 0] else none
    whole := by
      intro instant device register octets answered
      split at answered
      · cases answered
        rfl
      · cases answered }

def settings : PortSettings :=
  { PortSettings.named "shared" with responseWait := 6 }

def start : SharedPort LineView :=
  { now := 0
    port :=
      (Port.fresh settings 0
        { buffer := [7]
          taken := []
          coming := none
          arrival := none }).run (meters.line 3)
        [(0, .supervise), (0, .answerOpen none), (0, .supervise)]
    executors := [Executor.fresh .crc RetryPolicy.standard]
    clients := [] }

theorem start_rests : start.Rests settings id := by
  constructor
  · rfl
  · constructor
    case listens => constructor <;> rfl
    all_goals rfl
  · rfl
  · rfl
  · intro answer member
    cases member
  · rfl
  · constructor
    · rfl
    · intro instant arrived
      cases arrived
  · intro executor member
    rw [List.mem_singleton.mp member]
    rfl
  · rfl

def moves : List SharedPort.Move :=
  [.call 0 .readCurrentVoltage 2 .voltagePhase1,
    .call 0 .checkState 3 .deviceId, .turn 0, .turn 1] ++
    (List.range 24).flatMap
      (fun _ => List.replicate 8 .work ++ [.pass 2]) ++
    [.turn 0, .turn 1]

end TwoMeters

theorem Bench.Caller.concluded_of_reading {caller : Bench.Caller}
    {outcome : Except Failure Reading}
    (told : caller.reading? = some outcome) :
    ∃ instant, caller.stage = .concluded outcome instant := by
  unfold Bench.Caller.reading? at told
  split at told
  case h_1 outcome instant stage =>
    cases told
    exact ⟨instant, stage⟩
  case h_2 => cases told

theorem SharedPort.voltage_read_beside_silent_meter :
    let shared := TwoMeters.start.run (TwoMeters.meters.line 3) id
      TwoMeters.moves
    ∃ client ∈ shared.clients, ∃ reading instant,
      client.device = 2 ∧ client.function = .readCurrentVoltage ∧
        client.caller.stage = .concluded (.ok reading) instant ∧
        client.function.decode (replyFrame 2 [9, 196, 0, 0]) =
          .ok reading := by
  have timely : 3 ≤ TwoMeters.settings.lastLook := by decide
  have general := (calls_return_own_readings
    (TwoMeters.meters.line_metered timely) (by decide)
    TwoMeters.start_rests TwoMeters.moves).1
  generalize ran : TwoMeters.start.run (TwoMeters.meters.line 3) id
    TwoMeters.moves = shared at general ⊢
  have served : shared.clients.any (fun client =>
      client.device == 2 && client.function == .readCurrentVoltage &&
        (client.caller.reading?.bind Except.toOption).isSome) = true := by
    rw [← ran]
    decide +kernel
  obtain ⟨client, member, same⟩ := List.any_eq_true.mp served
  simp only [Bool.and_eq_true, beq_iff_eq] at same
  obtain ⟨⟨device, function⟩, told⟩ := same
  obtain ⟨reading, told⟩ := Option.isSome_iff_exists.mp told
  obtain ⟨outcome, told, succeeds⟩ := Option.bind_eq_some_iff.mp told
  obtain ⟨instant, stage⟩ := Bench.Caller.concluded_of_reading told
  cases outcome with
  | error failure => cases succeeds
  | ok reading =>
      obtain ⟨_, _, _, _, returns⟩ := general client member _ _ stage
      cases returns with
      | reads flushed data _ _ _ answered decoded =>
          change TwoMeters.meters.data flushed client.device client.register =
            some data at answered
          change client.function.decode (replyFrame client.device data) =
            .ok reading at decoded
          rw [device] at answered decoded
          cases answered
          exact ⟨client, member, reading, instant, device, function, stage,
            decoded⟩

end MeterLine
