import Mathlib.Data.List.Infix
import MeterLine.Bench.ScriptedLine
import MeterLine.Proofs.Port.Order

/-!
# What replies are made of

The input of a line is a queue: octets arrive at its end and are read from its
front.  An exchange that found the queue empty before it wrote its request
returns the octets that arrived first after that moment, and no others.  It
cannot tell who sent them: an octet that answers an earlier request is left out
only if it arrived before the queue was found empty.
-/

namespace MeterLine

/-- The input of a line as a queue.  An octet comes with a mark that tells
where it is from. -/
structure Line.Feed (line : Line σ) (ι : Type) where
  /-- Everything that has arrived, first one first. -/
  arrived : σ → List (UInt8 × ι)
  consumed : σ → Nat
  looks : ∀ now state,
    arrived state <+: arrived (line.available now state).line ∧
      consumed (line.available now state).line = consumed state
  empties : ∀ now state, (line.available now state).value = .ok 0 →
    consumed (line.available now state).line =
      (arrived (line.available now state).line).length
  reads : ∀ now size state,
    arrived state <+: arrived (line.read now size state).line
  gives : ∀ now size state octets,
    (line.read now size state).value = .ready (.ok octets) →
      ∃ taken : List (UInt8 × ι), taken.map Prod.fst = octets ∧
        taken <+: (arrived (line.read now size state).line).drop
          (consumed state) ∧
        consumed (line.read now size state).line =
          consumed state + octets.length
  waits : ∀ now size state wake,
    (line.read now size state).value = .pending wake →
      consumed (line.read now size state).line = consumed state
  writes : ∀ now octets state,
    arrived state <+: arrived (line.write now octets state).line ∧
      consumed (line.write now octets state).line = consumed state
  flushes : ∀ now state,
    arrived state <+: arrived (line.flush now state).line ∧
      consumed (line.flush now state).line = consumed state

namespace Line.Feed

variable {line : Line σ} {feed : line.Feed ι}

/-- Octets are reported only when there are some, and a read gives some of
them at once. -/
structure Prompt (feed : line.Feed ι) : Prop where
  finds : ∀ now state count,
    (line.available now state).value = .ok (count + 1) →
      feed.consumed (line.available now state).line <
        (feed.arrived (line.available now state).line).length
  gives : ∀ now size state, 0 < size →
    feed.consumed state < (feed.arrived state).length →
      ∃ octets, octets ≠ [] ∧
        (line.read now size state).value = .ready (.ok octets)

/-- The octets that arrived first after the queue was found empty. -/
structure Since (feed : line.Feed ι) (start state : σ) (octets : Bytes) :
    Prop where
  empty : feed.consumed start = (feed.arrived start).length
  later : feed.arrived start <+: feed.arrived state
  first : ∃ taken : List (UInt8 × ι), taken.map Prod.fst = octets ∧
    taken <+: (feed.arrived state).drop (feed.arrived start).length

/-- Nothing else was read after the queue was found empty. -/
structure Gathered (feed : line.Feed ι) (start state : σ) (octets : Bytes) :
    Prop where
  since : feed.Since start state octets
  consumed : feed.consumed state =
    (feed.arrived start).length + octets.length

theorem Since.grow {start state after : σ} {octets : Bytes}
    (since : feed.Since start state octets)
    (grows : feed.arrived state <+: feed.arrived after) :
    feed.Since start after octets := by
  obtain ⟨taken, same, inside⟩ := since.first
  constructor
  · exact since.empty
  · exact since.later.trans grows
  · exact ⟨taken, same, inside.trans (List.IsPrefix.drop grows _)⟩

theorem Gathered.start {state : σ}
    (empty : feed.consumed state = (feed.arrived state).length) :
    feed.Gathered state state [] := by
  constructor
  · constructor
    · exact empty
    · exact List.prefix_refl _
    · exact ⟨[], rfl, List.nil_prefix⟩
  · exact empty

theorem Gathered.keep {start state after : σ} {octets : Bytes}
    (gathered : feed.Gathered start state octets)
    (grows : feed.arrived state <+: feed.arrived after)
    (kept : feed.consumed after = feed.consumed state) :
    feed.Gathered start after octets := by
  constructor
  · exact gathered.since.grow grows
  · rw [kept, gathered.consumed]

theorem Gathered.read {start state : σ} {octets more : Bytes}
    (gathered : feed.Gathered start state octets) {now size : Nat}
    (ready : (line.read now size state).value = .ready (.ok more)) :
    feed.Gathered start (line.read now size state).line (octets ++ more) := by
  have grown := gathered.since.grow (feed.reads now size state)
  obtain ⟨next, nextSame, nextInside, consumed⟩ :=
    feed.gives now size state more ready
  obtain ⟨taken, same, rest, whole⟩ := grown.first
  have long : taken.length = octets.length := by
    rw [← same, List.length_map]
  constructor
  · constructor
    · exact grown.empty
    · exact grown.later
    · refine ⟨taken ++ next, ?_, ?_⟩
      · rw [List.map_append, same, nextSame]
      · rw [gathered.consumed, ← long, ← List.drop_drop, ← whole,
          List.drop_left] at nextInside
        rw [← whole]
        exact (List.prefix_append_right_inj taken).mpr nextInside
  · rw [consumed, gathered.consumed, List.length_append, Nat.add_assoc]

end Line.Feed

namespace Exchange

def Phase.drains : Phase → Bool
  | .draining => true
  | .discarding _ _ => true
  | _ => false

def Phase.gathered : Phase → Bytes
  | .polling reply _ => reply
  | .reading reply _ _ _ => reply
  | .resting reply _ _ => reply
  | _ => []

def Step.wire : Step σ → Wire σ
  | .next _ wire => wire
  | .wait _ wire _ => wire
  | .done _ wire => wire

theorem Step.wire_of_goesOn {result : Step σ} {later : Phase}
    {after : Wire σ} (goes : result.goesOn? = some (later, after)) :
    result.wire = after := by
  cases result <;> cases goes <;> rfl

variable {settings : PortSettings} {line : Line σ} {now : Nat}
  {request : Bytes} {wire : Wire σ} {phase : Phase} {result : Step σ}
  {feed : line.Feed ι}

theorem Moves.arrives (feed : line.Feed ι)
    (moves : Moves settings line now request wire phase result) :
    feed.arrived wire.line <+: feed.arrived result.wire.line := by
  have looks := (feed.looks now wire.line).1
  have reads := fun size => feed.reads now size wire.line
  have writes := fun octets => (feed.writes now octets wire.line).1
  have flushes := (feed.flushes now wire.line).1
  cases moves <;> simp [Step.wire, looks, reads, writes, flushes]

/-- The part of a reply that was gathered grows by what is read. -/
theorem Moves.gathers {later : Phase} {after : Wire σ} {start : σ}
    (moves : Moves settings line now request wire phase result)
    (goes : result.goesOn? = some (later, after))
    (past : phase.drains = false)
    (gathered : feed.Gathered start wire.line phase.gathered) :
    later.drains = false ∧
      feed.Gathered start after.line later.gathered := by
  have looks := feed.looks now wire.line
  have flushes := feed.flushes now wire.line
  have writes := fun octets => feed.writes now octets wire.line
  cases moves with
  | readsNothing reply idle size deadline fruitless =>
      cases goes
      refine ⟨rfl, ?_⟩
      rcases fruitless with ready | ⟨_, wake, pending⟩
      · simpa [Phase.gathered] using gathered.read ready
      · simpa [Phase.gathered] using gathered.keep
          (feed.reads now size wire.line)
          (feed.waits now size wire.line wake pending)
  | reads reply idle size deadline octets _ ready =>
      cases goes
      refine ⟨rfl, ?_⟩
      simpa [Phase.gathered] using gathered.read ready
  | readWaits reply idle size deadline wake _ pending =>
      cases goes
      refine ⟨rfl, ?_⟩
      simpa [Phase.gathered] using gathered.keep
        (feed.reads now size wire.line)
        (feed.waits now size wire.line wake pending)
  | _ =>
      cases past
      all_goals cases goes
      all_goals
        first
        | exact ⟨rfl, gathered⟩
        | exact ⟨rfl, by simpa [Phase.gathered] using
            gathered.keep looks.1 looks.2⟩
        | exact ⟨rfl, by simpa [Phase.gathered] using
            gathered.keep flushes.1 flushes.2⟩
        | exact ⟨rfl, by simpa [Phase.gathered] using
            gathered.keep (writes _).1 (writes _).2⟩

theorem Moves.returns {reply : Bytes} {after : Wire σ}
    (moves : Moves settings line now request wire phase result)
    (done : result = .done (.ok reply) after) :
    phase.drains = false ∧ phase.gathered = reply ∧ after.line = wire.line := by
  cases moves with
  | finishes =>
      cases done
      exact ⟨rfl, rfl, rfl⟩
  | _ => cases done

end Exchange

section

variable {line : Line σ}

/-- Where the exchange in hand stands with the input of its line. -/
structure Handling.Fed (feed : line.Feed ι) (handling : Handling σ)
    (state : σ) : Prop where
  draining : handling.phase.drains = true → handling.cleared = none
  gathered : ∀ start, handling.cleared = some start →
    feed.Gathered start state handling.phase.gathered
  unread : feed.Prompt → ∀ size deadline,
    handling.phase = .discarding size deadline →
      0 < size ∧ feed.consumed state < (feed.arrived state).length
  cleared : feed.Prompt → handling.phase.drains = false →
    ∃ start, handling.cleared = some start

/-- What the reply of an exchange that is over was made of. -/
structure Handling.Returned (feed : line.Feed ι) (handling : Handling σ)
    (state : σ) : Prop where
  since : ∀ reply start, handling.outcome = some (.ok reply) →
    handling.cleared = some start → feed.Since start state reply
  cleared : feed.Prompt → ∀ reply, handling.outcome = some (.ok reply) →
    ∃ start, handling.cleared = some start

end

namespace Handling

variable {line : Line σ} {feed : line.Feed ι} {handling : Handling σ}

theorem begin_fed (command : Command) (state : σ) :
    (Handling.begin command).Fed feed state := by
  constructor
  · intro _
    rfl
  · intro start cleared
    cases cleared
  · intro _ size deadline discarding
    cases discarding
  · intro _ past
    cases past

theorem cleared_proceed (past : handling.phase.drains = false)
    (phase : Exchange.Phase) (state : σ) :
    (handling.proceed phase state).cleared = handling.cleared := by
  obtain ⟨command, before, accepted, cleared, outcome⟩ := handling
  cases before <;> first | rfl | cases past

private theorem fed_of_draining {state : σ}
    (draining : handling.phase.drains = true)
    (fresh : handling.cleared = none)
    (unread : feed.Prompt → ∀ size deadline,
      handling.phase = .discarding size deadline →
        0 < size ∧ feed.consumed state < (feed.arrived state).length) :
    handling.Fed feed state := by
  constructor
  · intro _
    exact fresh
  · intro start present
    rw [fresh] at present
    cases present
  · exact unread
  · intro _ past
    rw [draining] at past
    cases past

/-- An exchange that no longer drains gathers its reply. -/
private theorem Fed.proceed_past {settings : PortSettings} {now : Nat}
    {later : Exchange.Phase} {wire after : Wire σ}
    {result : Exchange.Step σ} (fed : handling.Fed feed wire.line)
    (octets : Bytes)
    (moves : Exchange.Moves settings line now handling.command.request wire
      handling.phase result)
    (goes : result.goesOn? = some (later, after))
    (past : handling.phase.drains = false) :
    ((handling.accept octets).proceed later after.line).Fed feed
      after.line := by
  have cleared : ((handling.accept octets).proceed later
      after.line).cleared = handling.cleared :=
    cleared_proceed past later after.line
  have outcome := fun start present =>
    moves.gathers goes past (fed.gathered start present)
  constructor
  · rw [cleared]
    intro draining
    have still : later.drains = true := draining
    cases present : handling.cleared with
    | none => rfl
    | some start =>
        rw [(outcome start present).1] at still
        cases still
  · rw [cleared]
    intro start present
    exact (outcome start present).2
  · intro prompt size deadline discarding
    obtain ⟨start, present⟩ := fed.cleared prompt past
    have later : later = .discarding size deadline := discarding
    rw [later] at outcome
    cases (outcome start present).1
  · intro prompt _
    rw [cleared]
    exact fed.cleared prompt past

/-- An exchange goes on from draining to writing when it finds the input
empty, or, on a line that is not prompt, when a read brings nothing. -/
private theorem Fed.proceed_draining {settings : PortSettings} {now : Nat}
    {later : Exchange.Phase} {wire after : Wire σ}
    {result : Exchange.Step σ} (fed : handling.Fed feed wire.line)
    (octets : Bytes)
    (moves : Exchange.Moves settings line now handling.command.request wire
      handling.phase result)
    (goes : result.goesOn? = some (later, after))
    (drains : handling.phase.drains = true) :
    ((handling.accept octets).proceed later after.line).Fed feed
      after.line := by
  obtain ⟨command, phase, accepted, cleared, outcome⟩ := handling
  obtain rfl : cleared = none := fed.draining drains
  have ready : feed.Prompt → ∀ size deadline,
      phase = .discarding size deadline → ∃ octets, octets ≠ [] ∧
        (line.read now size wire.line).value = .ready (.ok octets) := by
    intro prompt size deadline discarding
    obtain ⟨positive, unread⟩ := fed.unread prompt size deadline discarding
    exact prompt.gives now size wire.line positive unread
  cases moves with
  | drainEnds empty =>
      cases goes
      have gathered := Line.Feed.Gathered.start
        (feed.empties now wire.line empty)
      constructor
      · intro still
        cases still
      · intro start present
        cases present
        rw [Wire.clear_line, Wire.take_line]
        exact gathered
      · intro _ size deadline discarding
        cases discarding
      · intro _ _
        exact ⟨_, rfl⟩
  | drainFinds count found =>
      cases goes
      apply fed_of_draining rfl rfl
      intro prompt size deadline discarding
      cases discarding
      have unread := prompt.finds now wire.line count found
      refine ⟨?_, by simpa using unread⟩
      simp only [Exchange.chunkSize]
      omega
  | discardGivesUp size deadline fruitless =>
      cases goes
      constructor
      · intro still
        cases still
      · intro start present
        cases present
      · intro _ size deadline discarding
        cases discarding
      · intro prompt _
        obtain ⟨octets, nonempty, given⟩ := ready prompt size deadline rfl
        rcases fruitless with nothing | ⟨_, wake, pending⟩
        · rw [given] at nothing
          cases nothing
          exact (nonempty rfl).elim
        · rw [given] at pending
          cases pending
  | discards size deadline octets nonempty given =>
      cases goes
      apply fed_of_draining rfl rfl
      intro _ size deadline discarding
      cases discarding
  | discardWaits size deadline wake early pending =>
      cases goes
      apply fed_of_draining rfl rfl
      intro prompt other limit discarding
      obtain ⟨octets, _, given⟩ := ready prompt size deadline rfl
      rw [given] at pending
      cases pending
  | drainFails => cases goes
  | discardFails => cases goes
  | _ => cases drains

theorem Fed.proceed {settings : PortSettings} {now : Nat}
    {later : Exchange.Phase} {wire after : Wire σ}
    {result : Exchange.Step σ} (fed : handling.Fed feed wire.line)
    (octets : Bytes)
    (moves : Exchange.Moves settings line now handling.command.request wire
      handling.phase result)
    (goes : result.goesOn? = some (later, after)) :
    ((handling.accept octets).proceed later after.line).Fed feed
      after.line := by
  cases drains : handling.phase.drains with
  | false => exact fed.proceed_past octets moves goes drains
  | true => exact fed.proceed_draining octets moves goes drains

theorem Fed.conclude {settings : PortSettings} {now : Nat}
    {outcome : Except Failure Bytes} {wire after : Wire σ}
    {result : Exchange.Step σ} (fed : handling.Fed feed wire.line)
    (octets : Bytes)
    (moves : Exchange.Moves settings line now handling.command.request wire
      handling.phase result)
    (done : result = .done outcome after) :
    ((handling.accept octets).finish (some outcome)).Returned feed
      after.line := by
  constructor
  · intro reply start success present
    cases Option.some.inj success
    obtain ⟨_, same, still⟩ := moves.returns done
    have gathered := fed.gathered start present
    rw [still, ← same]
    exact gathered.since
  · intro prompt reply success
    cases Option.some.inj success
    exact fed.cleared prompt (moves.returns done).1

theorem giveUp_returned (handling : Handling σ) (state : σ) :
    (handling.finish none).Returned feed state := by
  constructor
  · intro reply start success _
    cases success
  · intro _ reply success
    cases success

theorem Returned.grow {state after : σ}
    (returned : handling.Returned feed state)
    (grows : feed.arrived state <+: feed.arrived after) :
    handling.Returned feed after := by
  constructor
  · intro reply start success present
    exact (returned.since reply start success present).grow grows
  · exact returned.cleared

end Handling

/-- What a history knows of the input of its line. -/
structure History.Fed {line : Line σ} (feed : line.Feed ι)
    (history : History σ) : Prop where
  current : ∀ handling, history.session.current = some handling →
    handling.Fed feed history.port.wire.line
  finished : ∀ session ∈ history.sessions, ∀ handling ∈ session.finished,
    handling.Returned feed history.port.wire.line

namespace History

variable {line : Line σ} {feed : line.Feed ι} {history : History σ}

theorem observe_of_rest {action : Port.Action} (line : Line σ) (now : Nat)
    (port : Port σ) (session : Session σ) (rest : action ≠ .work) :
    (session.observe line now action port).current = session.current ∧
      (session.observe line now action port).finished = session.finished := by
  cases action <;> try exact ⟨rfl, rfl⟩
  case submit request =>
      rcases Port.submit_cases port request with
        ⟨_, _, _, equality⟩ | equality <;>
        simp [Session.observe, equality, Session.enqueue]
  case work => exact (rest rfl).elim

namespace Fed

theorem fresh (settings : PortSettings) (reopenDelay : Nat) (state : σ) :
    (History.fresh settings reopenDelay state).Fed feed := by
  constructor
  · intro handling present
    cases present
  · intro session known handling member
    rcases List.mem_cons.mp known with rfl | past
    · cases member
    · cases past

theorem rest (fed : history.Fed feed) (now : Nat) {action : Port.Action}
    (rest : action ≠ .work) : (history.perform line now action).Fed feed := by
  have untouched : (history.perform line now action).port.wire.line =
      history.port.wire.line :=
    line_perform_of_rest line now history.port rest
  cases begins : history.port.beginsSession action with
  | true =>
      have changed := perform_of_begin line now begins
      constructor
      · rw [changed.1]
        intro handling present
        cases present
      · rw [untouched, sessions, changed.1, changed.2]
        intro session known handling member
        rcases List.mem_cons.mp known with rfl | past
        · cases member
        · exact fed.finished session past handling member
  | false =>
      have changed := perform_of_ongoing line now begins
      have same := observe_of_rest line now history.port history.session rest
      constructor
      · rw [untouched, changed.1, same.1]
        exact fed.current
      · rw [untouched, sessions, changed.1, changed.2]
        intro session known handling member
        rcases List.mem_cons.mp known with rfl | past
        · rw [same.2] at member
          exact fed.finished _ List.mem_cons_self handling member
        · exact fed.finished session (List.mem_cons_of_mem _ past) handling
            member

/-- What is known of the exchanges that are over outlasts every arrival. -/
theorem finished_work (fed : history.Fed feed) {now : Nat}
    {more : List (Handling σ)}
    (finished : (history.session.work line now history.port).finished =
      history.session.finished ++ more)
    (grows : feed.arrived history.port.wire.line <+:
      feed.arrived (history.port.workerProgress line now).wire.line)
    (returned : ∀ handling ∈ more, handling.Returned feed
      (history.port.workerProgress line now).wire.line) :
    ∀ session ∈ (history.perform line now .work).sessions,
      ∀ handling ∈ session.finished, handling.Returned feed
        (history.perform line now .work).port.wire.line := by
  intro session known handling member
  rcases List.mem_cons.mp known with rfl | past
  · have inside : handling ∈ history.session.finished ++ more :=
      finished ▸ member
    rcases List.mem_append.mp inside with old | new
    · exact (fed.finished _ List.mem_cons_self handling old).grow grows
    · exact returned handling new
  · exact (fed.finished session (List.mem_cons_of_mem _ past) handling
      member).grow grows

theorem finished_kept (fed : history.Fed feed) {now : Nat}
    (finished : (history.session.work line now history.port).finished =
      history.session.finished)
    (grows : feed.arrived history.port.wire.line <+:
      feed.arrived (history.port.workerProgress line now).wire.line) :
    ∀ session ∈ (history.perform line now .work).sessions,
      ∀ handling ∈ session.finished, handling.Returned feed
        (history.perform line now .work).port.wire.line := by
  have none : (history.session.work line now history.port).finished =
      history.session.finished ++ [] := by
    rw [finished, List.append_nil]
  apply fed.finished_work none grows
  intro handling member
  cases member

theorem work (fed : history.Fed feed) (watches : history.Watches)
    (now : Nat) : (history.perform line now .work).Fed feed := by
  have session : (history.perform line now .work).session =
      history.session.work line now history.port := rfl
  have wire : (history.perform line now .work).port.wire =
      (history.port.workerProgress line now).wire := rfl
  cases history.session.workTurn line now history.port with
  | idles nothing _ still same =>
      constructor
      · rw [session, same, wire, still]
        exact fed.current
      · apply fed.finished_kept
        · rw [same]
        · rw [still]
  | takes command rest _ _ _ _ still same =>
      constructor
      · rw [session, same]
        intro handling present
        cases present
        exact Handling.begin_fed command _
      · apply fed.finished_kept
        · rw [same]
          rfl
        · rw [still]
  | proceeds command phase later busy step _ same =>
      obtain ⟨handling, present, rfl, rfl⟩ := watches.current busy
      have moves := Exchange.step_moves history.port.settings line now
        handling.command.request handling.phase history.port.wire
      have grows := moves.arrives feed
      rw [Exchange.Step.wire_of_goesOn step] at grows
      rw [Session.accept_proceed present] at same
      constructor
      · rw [session, same, wire]
        intro other there
        cases there
        exact (fed.current handling present).proceed _ moves step
      · apply fed.finished_kept
        · rw [same]
        · exact grows
  | concludes command phase outcome after busy step _ left _ same =>
      obtain ⟨handling, present, rfl, rfl⟩ := watches.current busy
      have moves := Exchange.step_moves history.port.settings line now
        handling.command.request handling.phase history.port.wire
      have grows := moves.arrives feed
      rw [step] at grows
      rw [Session.accept_putDown present] at same
      constructor
      · rw [session, same]
        intro other there
        cases there
      · apply fed.finished_work
        · rw [same]
        · rw [left]
          exact grows
        · intro other member
          rw [List.mem_singleton.mp member, left]
          exact (fed.current handling present).conclude _ moves step
  | givesUp command phase busy _ still _ same =>
      obtain ⟨handling, present, rfl, rfl⟩ := watches.current busy
      rw [Session.putDown_of_current present] at same
      constructor
      · rw [session, same]
        intro other there
        cases there
      · apply fed.finished_work
        · rw [same]
        · rw [still]
        · intro other member
          rw [List.mem_singleton.mp member]
          exact handling.giveUp_returned _

theorem perform (fed : history.Fed feed) (watches : history.Watches)
    (now : Nat) (action : Port.Action) :
    (history.perform line now action).Fed feed := by
  by_cases works : action = .work
  · rw [works]
    exact fed.work watches now
  · exact fed.rest now works

end Fed

/-- However calls, signals, events, the supervisor and the worker of a port
take turns, and whenever octets arrive: the reply that an exchange returns is
made of the octets that arrived first after the exchange had found the input of
its line empty, and of none that had arrived by then.  Every exchange finds it
empty if the line reports octets only when there are some and always gives some
of them at once. -/
theorem replies_arrive_after_drain (settings : PortSettings)
    (reopenDelay : Nat) (state : σ) (line : Line σ) (feed : line.Feed ι)
    (actions : List (Nat × Port.Action)) :
    let history := (History.fresh settings reopenDelay state).run line actions
    ∀ session ∈ history.sessions, ∀ handling ∈ session.finished,
      ∀ reply, handling.outcome = some (.ok reply) →
        (∀ start, handling.cleared = some start →
          feed.consumed start = (feed.arrived start).length ∧
            feed.arrived start <+: feed.arrived history.port.wire.line ∧
            ∃ returned : List (UInt8 × ι), returned.map Prod.fst = reply ∧
              returned <+: (feed.arrived history.port.wire.line).drop
                (feed.arrived start).length) ∧
          (feed.Prompt → ∃ start, handling.cleared = some start) := by
  intro history session known handling member reply success
  have held : history.Watches ∧ history.Fed feed := by
    apply run_induction (motive := fun history =>
      history.Watches ∧ history.Fed feed) line
    · intro history now action held
      exact ⟨held.1.perform line now action,
        held.2.perform held.1 now action⟩
    · exact ⟨Watches.fresh settings reopenDelay state,
        Fed.fresh settings reopenDelay state⟩
  have returned := held.2.finished session known handling member
  constructor
  · intro start present
    have since := returned.since reply start success present
    exact ⟨since.empty, since.later, since.first⟩
  · intro prompt
    exact returned.cleared prompt reply success

end History

structure EchoLine where
  past : List (UInt8 × Nat)
  unread : List (UInt8 × Nat)
  request : Bytes
  served : Nat

namespace EchoLine

def fresh : EchoLine :=
  { past := []
    unread := []
    request := []
    served := 0 }

def interface : Line EchoLine :=
  { available := fun _ line =>
      { value := .ok line.unread.length
        line := line
        events := [] }
    read := fun _ size line =>
      { value := .ready (.ok ((line.unread.take size).map Prod.fst))
        line :=
          { line with
            past := line.past ++ line.unread.take size
            unread := line.unread.drop size }
        events := [] }
    write := fun _ octets line =>
      { value := .ready (.ok octets.length)
        line := { line with request := line.request ++ octets }
        events := [] }
    flush := fun _ line =>
      { value := .ready (.ok ())
        line :=
          { line with
            unread := line.unread ++
              line.request.map fun octet => (octet, line.served)
            request := []
            served := line.served + 1 }
        events := [] } }

def feed : interface.Feed Nat :=
  { arrived := fun line => line.past ++ line.unread
    consumed := fun line => line.past.length
    looks := fun _ _ => ⟨List.prefix_refl _, rfl⟩
    empties := by
      intro now line nothing
      have empty : line.unread.length = 0 := Except.ok.inj nothing
      simp [interface, empty]
    reads := by
      intro now size line
      simp [interface]
    gives := by
      intro now size line octets ready
      cases ready
      refine ⟨line.unread.take size, rfl, ?_, ?_⟩
      · simp [interface, List.take_prefix]
      · simp [interface]
    waits := by
      intro now size line wake pending
      cases pending
    writes := fun _ _ _ => ⟨List.prefix_refl _, rfl⟩
    flushes := by
      intro now line
      simp [interface] }

theorem prompt : feed.Prompt := by
  constructor
  · intro now line count found
    have some_ : line.unread.length = count + 1 := Except.ok.inj found
    simp [feed, interface, some_]
  · intro now size line positive unread
    refine ⟨(line.unread.take size).map Prod.fst, ?_, rfl⟩
    have some_ : line.unread ≠ [] := by
      intro nothing
      simp [feed, nothing] at unread
    simp [some_, Nat.pos_iff_ne_zero.mp positive]

def actions : List (Nat × Port.Action) :=
  [(0, .supervise), (0, .answerOpen none), (0, .supervise),
    (0, .submit [5]), (0, .submit [6])] ++
    (List.range 24).flatMap fun turn =>
      List.replicate 12 (2 * turn, Port.Action.work)

end EchoLine

theorem History.echo_arrives_after_drain :
    let history := (History.fresh (PortSettings.named "echo") 0
      EchoLine.fresh).run EchoLine.interface EchoLine.actions
    ∃ handling ∈ history.session.finished,
      handling.outcome = some (.ok [6]) ∧
        ∃ start, handling.cleared = some start ∧
          ∃ returned : List (UInt8 × Nat), returned.map Prod.fst = [6] ∧
            returned <+: (EchoLine.feed.arrived
              history.port.wire.line).drop
                (EchoLine.feed.arrived start).length := by
  have general := replies_arrive_after_drain (PortSettings.named "echo") 0
    EchoLine.fresh EchoLine.interface EchoLine.feed EchoLine.actions
  simp only at general ⊢
  generalize ran : (History.fresh (PortSettings.named "echo") 0
    EchoLine.fresh).run EchoLine.interface EchoLine.actions = history
    at general ⊢
  have served : history.session.finished.any (fun handling =>
      handling.outcome.bind Except.toOption == some [6]) = true := by
    rw [← ran]
    decide +kernel
  obtain ⟨handling, member, same⟩ := List.any_eq_true.mp served
  have success : handling.outcome = some (.ok [6]) := by
    obtain ⟨outcome, concluded, succeeds⟩ :=
      Option.bind_eq_some_iff.mp (eq_of_beq same)
    cases outcome with
    | error failure => cases succeeds
    | ok reply =>
        cases succeeds
        exact concluded
  have here := general history.session List.mem_cons_self handling member [6]
    success
  obtain ⟨start, present⟩ := here.2 EchoLine.prompt
  obtain ⟨_, _, returned⟩ := here.1 start present
  exact ⟨handling, member, success, start, present, returned⟩

namespace Late

open Bench

def reply : Bytes := [1, 3, 4, 0, 0, 4, 210, 120, 174]

def requests : List Bytes :=
  [[1, 3, 0, 0, 0, 2, 196, 11], [1, 3, 0, 12, 0, 2, 4, 8]]

/-- The first request is answered when its time is over, the second one is not
answered. -/
def scripted : ScriptedLine :=
  ScriptedLine.fresh Plan.plain
    [{ Plan.plain with
        arrivals :=
          [{ delay := 7
             octets := reply
             event := none }] },
      Plan.plain] Plan.plain [] []

def settings : PortSettings :=
  { PortSettings.named "w1" with responseWait := 4 }

def actions : List (Nat × Port.Action) :=
  [(0, .supervise), (0, .answerOpen none), (0, .supervise)] ++
    requests.map (fun request => (0, .submit request)) ++
    (List.range 17).flatMap fun turn =>
      List.replicate 12 (2 * turn, Port.Action.work)

end Late

/-- A reply that arrives after the next command has found the input empty is
returned for that command. -/
theorem History.late_reply_returned_to_next_command :
    let history := (History.fresh Late.settings 0 Late.scripted).run
      Bench.ScriptedLine.interface Late.actions
    history.calls = Late.requests ∧
      Late.scripted.plans.map (fun plan =>
        plan.arrivals.map Bench.PlannedArrival.octets) = [[Late.reply], []] ∧
      history.port.answers.map
          (fun answer => (answer.number, answer.octets?)) =
        [(2, some Late.reply), (1, none)] := by
  decide +kernel

end MeterLine
