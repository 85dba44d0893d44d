import MeterLine.Proofs.Port.History
import MeterLine.Proofs.Port.Moves

/-!
# Commands are served in order

The worker of a session takes commands in the order in which they were queued
and puts one down before it takes the next.  What the line accepted is put
together from their requests in that order, each of them whole unless its
exchange came to an end while it was being written.  Once the worker was told
to stop it takes nothing more, so that nothing but the command in hand touches
the line.
-/

namespace MeterLine

/-- What was accepted of a request when its exchange stands at a phase. -/
def Exchange.Phase.Fits (request accepted : Bytes) : Exchange.Phase → Prop
  | .draining => accepted = []
  | .discarding _ _ => accepted = []
  | .writing rest _ => accepted ++ rest = request
  | _ => accepted = request

namespace Exchange

variable {settings : PortSettings} {line : Line σ} {now : Nat}
  {request : Bytes} {wire : Wire σ} {phase : Phase} {result : Step σ}

theorem Moves.fits {later : Phase} {after : Wire σ} {octets : Bytes}
    (moves : Moves settings line now request wire phase result)
    (goes : result.goesOn? = some (later, after))
    (fits : phase.Fits request octets) :
    later.Fits request (octets ++ accepted line now phase wire) := by
  cases moves with
  | writes rest deadline count more value =>
      cases goes
      simp only [Phase.Fits, accepted, value, List.append_assoc,
        List.take_append_drop] at fits ⊢
      exact fits
  | writeWaits rest deadline wake more early value =>
      cases goes
      simpa [Phase.Fits, accepted, value] using fits
  | written deadline =>
      cases goes
      simp only [Phase.Fits, accepted, List.take_nil, List.append_nil]
        at fits ⊢
      split <;> simpa using fits
  | _ =>
      cases goes
      all_goals simpa [Phase.Fits, accepted] using fits

/-- Nothing is accepted in the step that ends an exchange, and a reply comes
only after the whole request was written. -/
theorem Moves.ends {outcome : Except Failure Bytes} {after : Wire σ}
    (moves : Moves settings line now request wire phase result)
    (done : result = .done outcome after) :
    accepted line now phase wire = [] ∧
      ∀ reply, outcome = .ok reply → phase.isWritten = true := by
  cases moves with
  | _ =>
      cases done
      all_goals constructor <;> simp_all [accepted, Phase.isWritten]

end Exchange

/-- What the line accepted fits where the exchange stands, and a reply comes
only after the whole request. -/
structure Handling.Sound (handling : Handling σ) : Prop where
  fits : handling.phase.Fits handling.command.request handling.accepted
  written : ∀ reply, handling.outcome = some (.ok reply) →
    handling.phase.isWritten = true

namespace Handling

theorem begin_sound (command : Command) :
    (Handling.begin command : Handling σ).Sound := by
  constructor
  · rfl
  · intro reply success
    cases success

theorem Sound.proceed {handling : Handling σ} (sound : handling.Sound)
    {settings : PortSettings} {line : Line σ} {now : Nat}
    {later : Exchange.Phase} {wire after : Wire σ} (state : σ)
    (pending : handling.outcome = none)
    (goes : (Exchange.step settings line now handling.command.request
      handling.phase wire).goesOn? = some (later, after)) :
    ((handling.accept (Exchange.accepted line now handling.phase
      wire)).proceed later state).Sound := by
  have moves := Exchange.step_moves settings line now
    handling.command.request handling.phase wire
  constructor
  · exact moves.fits goes sound.fits
  · intro reply success
    have outcome : handling.outcome = some (.ok reply) := success
    rw [pending] at outcome
    cases outcome

theorem Sound.conclude {handling : Handling σ} (sound : handling.Sound)
    {settings : PortSettings} {line : Line σ} {now : Nat}
    {outcome : Except Failure Bytes} {wire after : Wire σ}
    (done : Exchange.step settings line now handling.command.request
      handling.phase wire = .done outcome after) :
    ((handling.accept (Exchange.accepted line now handling.phase
      wire)).finish (some outcome)).Sound := by
  have ends := (Exchange.step_moves settings line now
    handling.command.request handling.phase wire).ends done
  constructor
  · simpa [accept, finish, ends.1] using sound.fits
  · intro reply success
    exact ends.2 reply (Option.some.inj success)

theorem Sound.giveUp {handling : Handling σ} (sound : handling.Sound) :
    (handling.finish none).Sound := by
  constructor
  · exact sound.fits
  · intro reply success
    cases success

end Handling

namespace History

/-- The caller of a command that is no longer in hand finds its result,
unless nobody waits for it. -/
def Told (history : History σ) (handling : Handling σ) : Prop :=
  ∃ answer : CommandAnswer,
    answer.number = handling.command.number ∧
      (handling.outcome = some answer.outcome ∨
        (handling.outcome = none ∧ history.port.Refuses answer)) ∧
      (answer ∈ history.port.answers ∨
        answer.number ∈ history.port.abandoned)

end History

/-- A session in good order, with what its history knows. -/
structure Session.Orderly (history : History σ) (session : Session σ) :
    Prop where
  ordered : session.handled.map Handling.command <+: session.queued
  joined : session.accepted = session.handled.flatMap Handling.accepted
  sound : ∀ handling ∈ session.handled, handling.Sound
  told : ∀ handling ∈ session.finished, history.Told handling

def Session.Pending (session : Session σ) : Prop :=
  ∀ handling, session.current = some handling → handling.outcome = none

namespace Session

theorem handled_of_current {session : Session σ} {handling : Handling σ}
    (present : session.current = some handling) :
    session.handled = session.finished ++ [handling] := by
  rw [handled, present, Option.toList_some]

theorem handled_of_none {session : Session σ}
    (nothing : session.current = none) :
    session.handled = session.finished := by
  rw [handled, nothing, Option.toList_none, List.append_nil]

theorem accept_proceed {session : Session σ} {handling : Handling σ}
    (present : session.current = some handling) (octets : Bytes)
    (phase : Exchange.Phase) (state : σ) :
    (session.accept octets).proceed phase state =
      { session with
        current := some ((handling.accept octets).proceed phase state)
        accepted := session.accepted ++ octets } := by
  simp [accept, proceed, present]

theorem accept_putDown {session : Session σ} {handling : Handling σ}
    (present : session.current = some handling) (octets : Bytes)
    (outcome : Option (Except Failure Bytes)) :
    (session.accept octets).putDown outcome =
      { session with
        finished :=
          session.finished ++ [(handling.accept octets).finish outcome]
        current := none
        accepted := session.accepted ++ octets } := by
  simp [accept, putDown, present]

theorem putDown_of_current {session : Session σ} {handling : Handling σ}
    (present : session.current = some handling)
    (outcome : Option (Except Failure Bytes)) :
    session.putDown outcome =
      { session with
        finished := session.finished ++ [handling.finish outcome]
        current := none } := by
  simp [putDown, present]

theorem empty_orderly (history : History σ) :
    (Session.empty : Session σ).Orderly history := by
  constructor
  · exact List.prefix_refl _
  · rfl
  · intro handling member
    cases member
  · intro handling member
    cases member

namespace Orderly

/-- A session stays in good order when the last of its commands gets on. -/
theorem advance {history after : History σ} {session later : Session σ}
    (orderly : session.Orderly history) {before : List (Handling σ)}
    {handling next : Handling σ} {octets : Bytes}
    (known : session.handled = before ++ [handling])
    (handled : later.handled = before ++ [next])
    (command : next.command = handling.command)
    (gained : next.accepted = handling.accepted ++ octets)
    (accepted : later.accepted = session.accepted ++ octets)
    (queued : later.queued = session.queued) (sound : next.Sound)
    (told : ∀ handling ∈ later.finished, after.Told handling) :
    later.Orderly after := by
  constructor
  · have ordered := orderly.ordered
    rw [known] at ordered
    rw [handled, queued]
    simpa [command] using ordered
  · rw [accepted, orderly.joined, known, handled]
    simp [gained]
  · intro other member
    rw [handled] at member
    rcases List.mem_append.mp member with old | new
    · apply orderly.sound other
      rw [known]
      exact List.mem_append_left _ old
    · rw [List.mem_singleton.mp new]
      exact sound
  · exact told

theorem weaken {history after : History σ} {session : Session σ}
    (orderly : session.Orderly history)
    (keeps : ∀ handling, history.Told handling → after.Told handling) :
    session.Orderly after := by
  constructor
  · exact orderly.ordered
  · exact orderly.joined
  · exact orderly.sound
  · intro handling member
    exact keeps handling (orderly.told handling member)

end Orderly

end Session

namespace History

theorem Told.perform {history : History σ} {handling : Handling σ}
    (told : history.Told handling) (line : Line σ) (now : Nat)
    (action : Port.Action) :
    (history.perform line now action).Told handling := by
  obtain ⟨answer, number, outcome, given⟩ := told
  refine ⟨answer, number, ?_, ?_⟩
  · rcases outcome with same | ⟨nothing, refused⟩
    · exact Or.inl same
    · exact Or.inr ⟨nothing, refuses_perform refused line now action⟩
  · rcases given with found | left
    · left
      rw [History.perform, Port.answers_perform]
      exact List.mem_append_right _ found
    · right
      rcases Port.abandoned_perform line now action history.port with
        same | ⟨number, _, more⟩
      · simpa [History.perform, same] using left
      · simp [History.perform, more, left]

theorem told_of_answered {history : History σ} {line : Line σ} {now : Nat}
    {handling : Handling σ} {answer : CommandAnswer}
    (given : answer ∈ (history.port.workerProgress line now).answers)
    (number : answer.number = handling.command.number)
    (outcome : handling.outcome = some answer.outcome ∨
      (handling.outcome = none ∧ history.port.Refuses answer)) :
    (history.perform line now .work).Told handling := by
  refine ⟨answer, number, ?_, ?_⟩
  · exact outcome
  · exact answered_or_abandoned given

/-- Every session is in good order, and what the latest one queued stands
behind what its worker took, as long as the worker runs. -/
structure Ordered (history : History σ) : Prop where
  waiting : ∃ dropped,
    history.session.queued =
        history.session.handled.map Handling.command ++
          history.port.worker.queue ++ dropped ∧
      (history.port.worker.stage ≠ .stopped → dropped = [])
  pending : history.session.Pending
  present : history.session.Orderly history
  past : ∀ session ∈ history.earlier, session.Orderly history

namespace Ordered

theorem fresh (settings : PortSettings) (reopenDelay : Nat) (state : σ) :
    Ordered (History.fresh settings reopenDelay state) := by
  constructor
  · exact ⟨[], rfl, fun _ => rfl⟩
  · intro handling present
    cases present
  · exact Session.empty_orderly _
  · intro session member
    cases member

theorem begin {history : History σ} (ordered : history.Ordered)
    (line : Line σ) (now : Nat) {action : Port.Action}
    (begins : history.port.beginsSession action = true) :
    (history.perform line now action).Ordered := by
  have changed := perform_of_begin line now begins
  obtain ⟨rfl, opened⟩ :=
    (Port.beginsSession_iff history.port action).mp begins
  constructor
  · refine ⟨[], ?_, fun _ => rfl⟩
    rw [changed.1]
    rcases Port.worker_supervise_of_opened now opened with same | same <;>
      simp [History.perform, Port.perform, same, Session.empty,
        Session.handled, Worker.fresh]
  · rw [changed.1]
    intro handling present
    cases present
  · rw [changed.1]
    exact Session.empty_orderly _
  · rw [changed.2]
    intro session known
    have orderly : session.Orderly history := by
      rcases List.mem_cons.mp known with rfl | past
      · exact ordered.present
      · exact ordered.past session past
    exact orderly.weaken fun _ told => told.perform line now _

theorem keep {history : History σ} (ordered : history.Ordered)
    (line : Line σ) (now : Nat) {action : Port.Action}
    (earlier : (history.perform line now action).earlier = history.earlier)
    (session : (history.perform line now action).session = history.session)
    (stage : (history.perform line now action).port.worker.stage =
      history.port.worker.stage)
    (queue : (history.perform line now action).port.worker.queue =
      history.port.worker.queue) :
    (history.perform line now action).Ordered := by
  have keeps : ∀ handling, history.Told handling →
      (history.perform line now action).Told handling :=
    fun _ told => told.perform line now action
  constructor
  · rw [session, stage, queue]
    exact ordered.waiting
  · rw [session]
    exact ordered.pending
  · rw [session]
    exact ordered.present.weaken keeps
  · rw [earlier]
    intro other past
    exact (ordered.past other past).weaken keeps

theorem submit {history : History σ} (ordered : history.Ordered)
    (line : Line σ) (now : Nat) (request : Bytes) :
    (history.perform line now (.submit request)).Ordered := by
  have ongoing := perform_of_ongoing line now
    (rfl : history.port.beginsSession (.submit request) = false)
  rcases Port.submit_cases history.port request with
    ⟨_, _, accepts, equality⟩ | equality
  · have keeps : ∀ handling, history.Told handling →
        (history.perform line now (.submit request)).Told handling :=
      fun _ told => told.perform line now _
    have session : (history.perform line now (.submit request)).session =
        history.session.enqueue (history.port.nextCommand request) := by
      rw [ongoing.1]
      simp only [Session.observe, equality, Port.nextCommand]
    have worker : (history.perform line now (.submit request)).port.worker =
        history.port.worker.enqueue (history.port.nextCommand request) := by
      simp only [History.perform, Port.perform, equality]
    have orderly := ordered.present.weaken keeps
    constructor
    · obtain ⟨dropped, queued, running⟩ := ordered.waiting
      obtain rfl := running (Worker.accepts_not_stopped accepts)
      refine ⟨[], ?_, fun _ => rfl⟩
      rw [session, worker]
      simp [Session.enqueue, Worker.enqueue, Session.handled, queued]
    · rw [session]
      exact ordered.pending
    · rw [session]
      constructor
      · exact orderly.ordered.trans (List.prefix_append _ _)
      · exact orderly.joined
      · exact orderly.sound
      · exact orderly.told
    · rw [ongoing.2]
      intro other past
      exact (ordered.past other past).weaken keeps
  · apply ordered.keep line now
    · exact ongoing.2
    · rw [ongoing.1]
      simp only [Session.observe, equality]
    · simp only [History.perform, Port.perform, equality]
    · simp only [History.perform, Port.perform, equality]

theorem advance {history : History σ} (ordered : history.Ordered)
    {line : Line σ} {now : Nat} {handling next : Handling σ} {octets : Bytes}
    (present : history.session.current = some handling)
    (running : history.port.worker.stage ≠ .stopped)
    (handled : (history.perform line now .work).session.handled =
      history.session.finished ++ [next])
    (command : next.command = handling.command)
    (gained : next.accepted = handling.accepted ++ octets)
    (accepted : (history.perform line now .work).session.accepted =
      history.session.accepted ++ octets)
    (queued : (history.perform line now .work).session.queued =
      history.session.queued)
    (waiting : ∃ lost,
      history.port.worker.queue =
          (history.port.workerProgress line now).worker.queue ++ lost ∧
        ((history.port.workerProgress line now).worker.stage ≠ .stopped →
          lost = []))
    (pending : (history.perform line now .work).session.Pending)
    (sound : next.Sound)
    (told : ∀ handling ∈ (history.perform line now .work).session.finished,
      (history.perform line now .work).Told handling) :
    (history.perform line now .work).Ordered := by
  have known := Session.handled_of_current present
  constructor
  · obtain ⟨dropped, before, none⟩ := ordered.waiting
    obtain ⟨lost, queue, kept⟩ := waiting
    obtain rfl := none running
    refine ⟨lost, ?_, kept⟩
    rw [queued, before, known, handled, queue]
    simp [command, History.perform, Port.perform, Port.work, Port.advance,
      Port.deliver]
  · exact pending
  · exact ordered.present.advance known handled command gained accepted
      queued sound told
  · intro other past
    exact (ordered.past other past).weaken
      fun _ told => told.perform line now .work

private theorem stop {history : History σ} (ordered : history.Ordered)
    {line : Line σ} {now : Nat}
    (stopped : (history.port.workerProgress line now).worker =
      history.port.worker.ended)
    (same : (history.perform line now .work).session = history.session) :
    (history.perform line now .work).Ordered := by
  have worker : (history.perform line now .work).port.worker =
      history.port.worker.ended := stopped
  have keeps : ∀ handling, history.Told handling →
      (history.perform line now .work).Told handling :=
    fun _ told => told.perform line now .work
  obtain ⟨dropped, queued, _⟩ := ordered.waiting
  constructor
  · refine ⟨history.port.worker.queue ++ dropped, ?_, ?_⟩
    · rw [same, worker, queued]
      simp
    · intro going
      rw [worker] at going
      exact (going rfl).elim
  · rw [same]
    exact ordered.pending
  · rw [same]
    exact ordered.present.weaken keeps
  · intro other known
    exact (ordered.past other known).weaken keeps

private theorem take {history : History σ} (ordered : history.Ordered)
    (watches : history.Watches) {line : Line σ} {now : Nat}
    {command : Command} {rest : List Command}
    (idle : history.port.worker.stage = .idle)
    (queue : history.port.worker.queue = command :: rest)
    (taken : (history.port.workerProgress line now).worker =
      { history.port.worker with
        queue := rest
        stage := .busy command Exchange.start })
    (same : (history.perform line now .work).session =
      history.session.take command) :
    (history.perform line now .work).Ordered := by
  have worker : (history.perform line now .work).port.worker =
      { history.port.worker with
        queue := rest
        stage := .busy command Exchange.start } := taken
  have keeps : ∀ handling, history.Told handling →
      (history.perform line now .work).Told handling :=
    fun _ told => told.perform line now .work
  have nothing : history.session.current = none := by
    apply watches.current_none
    simp [Worker.inHand?, idle]
  have handled : (history.session.take command).handled =
      history.session.handled ++ [Handling.begin command] := by
    rw [Session.handled_of_none nothing]
    exact Session.handled_of_current rfl
  obtain ⟨dropped, queued, running⟩ := ordered.waiting
  obtain rfl := running (by simp [idle])
  constructor
  · refine ⟨[], ?_, fun _ => rfl⟩
    rw [same, worker, handled]
    simp [Session.take, queued, queue, Handling.begin]
  · rw [same]
    intro handling present
    cases present
    rfl
  · rw [same]
    constructor
    · rw [handled]
      simp [Session.take, queued, queue, Handling.begin]
    · rw [handled]
      simp [Session.take, ordered.present.joined, Handling.begin]
    · rw [handled]
      intro handling member
      rcases List.mem_append.mp member with old | new
      · exact ordered.present.sound handling old
      · rw [List.mem_singleton.mp new]
        exact Handling.begin_sound command
    · intro handling member
      exact keeps handling (ordered.present.told handling member)
  · intro other known
    exact (ordered.past other known).weaken keeps

theorem work {history : History σ} (ordered : history.Ordered)
    (watches : history.Watches) (line : Line σ) (now : Nat) :
    (history.perform line now .work).Ordered := by
  have earlier : (history.perform line now .work).earlier =
      history.earlier := rfl
  have session : (history.perform line now .work).session =
      history.session.work line now history.port := rfl
  have worker : (history.perform line now .work).port.worker =
      (history.port.workerProgress line now).worker := rfl
  have told : ∀ handling ∈ history.session.finished,
      (history.perform line now .work).Told handling := by
    intro handling member
    exact (ordered.present.told handling member).perform line now .work
  cases history.session.workTurn line now history.port with
  | idles nothing rested _ same =>
      rcases rested with rested | stopped
      · apply ordered.keep line now earlier
        · rw [session, same]
        · rw [worker, rested]
        · rw [worker, rested]
      · apply ordered.stop stopped
        rw [session, same]
  | takes command rest idle _ queue taken _ same =>
      exact ordered.take watches idle queue taken (session.trans same)
  | proceeds command phase later busy step progress same =>
      obtain ⟨handling, present, rfl, rfl⟩ := watches.current busy
      have sound := ordered.present.sound handling
        (by simp [Session.handled_of_current present])
      have pending := ordered.pending handling present
      rw [Session.accept_proceed present, ← session] at same
      apply ordered.advance present (by simp [busy])
      · rw [same]
        exact Session.handled_of_current rfl
      · rfl
      · rfl
      · rw [same]
      · rw [same]
      · exact ⟨[], by simp [progress], fun _ => rfl⟩
      · intro other there
        rw [same] at there
        cases there
        exact pending
      · exact sound.proceed _ pending step
      · rw [same]
        exact told
  | concludes command phase outcome wire busy step progress _ answers same =>
      obtain ⟨handling, present, rfl, rfl⟩ := watches.current busy
      have sound := ordered.present.sound handling
        (by simp [Session.handled_of_current present])
      rw [Session.accept_putDown present, ← session] at same
      apply ordered.advance present (by simp [busy])
      · rw [same]
        exact Session.handled_of_none rfl
      · rfl
      · rfl
      · rw [same]
      · rw [same]
      · exact ⟨[], by simp [progress], fun _ => rfl⟩
      · intro other there
        rw [same] at there
        cases there
      · exact sound.conclude step
      · rw [same]
        intro other member
        rcases List.mem_append.mp member with old | new
        · exact told other old
        · rw [List.mem_singleton.mp new]
          apply told_of_answered (answers ▸ List.mem_singleton_self _)
          · rfl
          · exact Or.inl rfl
  | givesUp command phase busy progress _ answers same =>
      obtain ⟨handling, present, rfl, rfl⟩ := watches.current busy
      have sound := ordered.present.sound handling
        (by simp [Session.handled_of_current present])
      rw [Session.putDown_of_current present, ← session] at same
      apply ordered.advance present (by simp [busy])
      · rw [same]
        exact Session.handled_of_none rfl
      · rfl
      · exact (List.append_nil _).symm
      · rw [same, List.append_nil]
      · rw [same]
      · refine ⟨history.port.worker.queue, by simp [progress], ?_⟩
        intro going
        rw [progress] at going
        exact (going rfl).elim
      · intro other there
        rw [same] at there
        cases there
      · exact sound.giveUp
      · rw [same]
        intro other member
        rcases List.mem_append.mp member with old | new
        · exact told other old
        · rw [List.mem_singleton.mp new]
          have given : Worker.refuse history.port.settings
              handling.command ∈
                (history.port.workerProgress line now).answers := by
            rw [answers]
            exact List.mem_cons_self
          apply told_of_answered given
          · rfl
          · exact Or.inr ⟨rfl, rfl⟩

theorem perform {history : History σ} (ordered : history.Ordered)
    (watches : history.Watches) (line : Line σ) (now : Nat)
    (action : Port.Action) : (history.perform line now action).Ordered := by
  cases begins : history.port.beginsSession action with
  | true => exact ordered.begin line now begins
  | false =>
      have ongoing := perform_of_ongoing line now begins
      cases action using Port.Action.byPart with
      | control action control =>
          obtain ⟨closed, stopping, worker, _, _⟩ :=
            Port.worker_perform_of_control line now control begins
          apply ordered.keep line now ongoing.2
          · rw [ongoing.1, observe_of_control line now _ _ control]
          · rw [History.perform, worker]
          · rw [History.perform, worker]
      | submit request => exact ordered.submit line now request
      | abandon number =>
          apply ordered.keep line now ongoing.2 ongoing.1
          · rfl
          · rfl
      | work => exact ordered.work watches line now

end Ordered

/-- Only the worker touches the line. -/
theorem line_perform_of_rest (line : Line σ) (now : Nat)
    {action : Port.Action} (port : Port σ) (rest : action ≠ .work) :
    (port.perform line now action).wire.line = port.wire.line := by
  cases action using Port.Action.byPart with
  | control action control =>
      exact congrArg Port.Books.line
        (Port.books_perform_of_control line now port control)
  | submit request =>
      rcases Port.submit_cases port request with
        ⟨_, _, _, equality⟩ | equality <;>
        simp only [Port.perform, equality]
  | abandon number => rfl
  | work => exact (rest rfl).elim

/-- Only a turn of the worker with a command in hand touches the line. -/
theorem line_perform (line : Line σ) (now : Nat) (action : Port.Action)
    (port : Port σ)
    (touched : (port.perform line now action).wire.line ≠ port.wire.line) :
    action = .work ∧
      ∃ command phase, port.worker.inHand? = some (command, phase) := by
  by_cases works : action = .work
  · refine ⟨works, ?_⟩
    have same : (port.perform line now action).wire =
        (port.workerProgress line now).wire := by
      rw [works]
      rfl
    rw [same] at touched
    cases port.workTurn line now with
    | rests _ _ wire => exact (touched (by rw [wire])).elim
    | stops _ _ _ wire => exact (touched (by rw [wire])).elim
    | takes _ _ _ _ _ _ wire => exact (touched (by rw [wire])).elim
    | proceeds command phase _ busy =>
        exact ⟨command, phase, Worker.inHand?_of_busy busy⟩
    | concludes command phase _ _ busy =>
        exact ⟨command, phase, Worker.inHand?_of_busy busy⟩
    | givesUp command phase _ busy =>
        exact ⟨command, phase, Worker.inHand?_of_busy busy⟩
  · exact (touched (line_perform_of_rest line now port works)).elim

/-- What the rest of a session may do once its worker was told to stop. -/
structure Cut (history later : History σ) : Prop where
  stopping : later.port.worker.stopping = true
  taken : later.session.handled.map Handling.command =
    history.session.handled.map Handling.command
  inHand : ∀ command phase,
    later.port.worker.inHand? = some (command, phase) →
      ∃ before, history.port.worker.inHand? = some (command, before)
  untouched : history.port.worker.inHand? = none →
    later.port.wire.line = history.port.wire.line

namespace Cut

theorem refl {history : History σ}
    (stopping : history.port.worker.stopping = true) :
    history.Cut history := by
  constructor
  · exact stopping
  · rfl
  · intro command phase inHand
    exact ⟨phase, inHand⟩
  · intro _
    rfl

theorem trans {first second third : History σ} (before : first.Cut second)
    (after : second.Cut third) : first.Cut third := by
  constructor
  · exact after.stopping
  · exact after.taken.trans before.taken
  · intro command phase inHand
    obtain ⟨between, held⟩ := after.inHand command phase inHand
    exact before.inHand command between held
  · intro nothing
    have still : second.port.worker.inHand? = none := by
      apply Option.eq_none_iff_forall_ne_some.mpr
      rintro ⟨command, phase⟩ held
      obtain ⟨between, present⟩ := before.inHand command phase held
      rw [nothing] at present
      cases present
    exact (after.untouched still).trans (before.untouched nothing)

theorem work {history : History σ} (watches : history.Watches)
    (stopping : history.port.worker.stopping = true) (line : Line σ)
    (now : Nat) : history.Cut (history.perform line now .work) := by
  have session : (history.perform line now .work).session =
      history.session.work line now history.port := rfl
  have worker : (history.perform line now .work).port.worker =
      (history.port.workerProgress line now).worker := rfl
  have untouched : history.port.worker.inHand? = none →
      (history.perform line now .work).port.wire.line =
        history.port.wire.line := by
    intro nothing
    by_cases same : (history.perform line now .work).port.wire.line =
        history.port.wire.line
    · exact same
    · obtain ⟨_, command, phase, inHand⟩ :=
        line_perform line now .work history.port same
      rw [nothing] at inHand
      cases inHand
  cases history.session.workTurn line now history.port with
  | idles nothing rested _ same =>
      constructor
      · rw [worker]
        rcases rested with rested | stopped
        · rw [rested, stopping]
        · rw [stopped]
          exact stopping
      · rw [session, same]
      · rw [worker]
        intro command phase inHand
        rcases rested with rested | stopped
        · rw [rested, nothing] at inHand
          cases inHand
        · rw [stopped] at inHand
          cases inHand
      · exact untouched
  | takes _ _ _ going => simp [stopping] at going
  | proceeds command phase later busy _ progress same =>
      obtain ⟨handling, present, rfl, rfl⟩ := watches.current busy
      rw [Session.accept_proceed present] at same
      constructor
      · rw [worker, progress]
        exact stopping
      · rw [session, same, Session.handled_of_current present,
          Session.handled_of_current rfl]
        simp [Handling.proceed, Handling.accept]
      · rw [worker, progress]
        intro command phase inHand
        cases inHand
        exact ⟨handling.phase, Worker.inHand?_of_busy busy⟩
      · exact untouched
  | concludes command phase outcome wire busy _ progress _ _ same =>
      obtain ⟨handling, present, rfl, rfl⟩ := watches.current busy
      rw [Session.accept_putDown present] at same
      constructor
      · rw [worker, progress]
        exact stopping
      · rw [session, same, Session.handled_of_current present,
          Session.handled_of_none rfl]
        simp [Handling.finish, Handling.accept]
      · rw [worker, progress]
        intro command phase inHand
        cases inHand
      · exact untouched
  | givesUp command phase busy progress _ _ same =>
      obtain ⟨handling, present, rfl, rfl⟩ := watches.current busy
      rw [Session.putDown_of_current present] at same
      constructor
      · rw [worker, progress]
        exact stopping
      · rw [session, same, Session.handled_of_current present,
          Session.handled_of_none rfl]
        simp [Handling.finish]
      · rw [worker, progress]
        intro command phase inHand
        cases inHand
      · exact untouched

theorem perform {history : History σ} (watches : history.Watches)
    (stopping : history.port.worker.stopping = true) (line : Line σ)
    (now : Nat) {action : Port.Action}
    (ongoing : history.port.beginsSession action = false) :
    history.Cut (history.perform line now action) := by
  have session := (perform_of_ongoing line now ongoing).1
  have untouched : ∀ action : Port.Action, action ≠ .work →
      (history.perform line now action).port.wire.line =
        history.port.wire.line :=
    fun action rest => line_perform_of_rest line now history.port rest
  cases action using Port.Action.byPart with
  | control action control =>
      obtain ⟨closed, told, worker, _, still⟩ :=
        Port.worker_perform_of_control line now control ongoing
      constructor
      · rw [History.perform, worker]
        exact still stopping
      · rw [session, observe_of_control line now _ _ control]
      · rw [History.perform, worker]
        intro command phase inHand
        exact ⟨phase, inHand⟩
      · intro _
        apply untouched
        rintro rfl
        cases control
  | submit request =>
      rcases Port.submit_cases history.port request with
        ⟨_, _, _, equality⟩ | equality
      · constructor
        · simpa [History.perform, Port.perform, equality, Worker.enqueue]
            using stopping
        · rw [session]
          simp only [Session.observe, equality]
          rfl
        · intro command phase inHand
          refine ⟨phase, ?_⟩
          simpa [History.perform, Port.perform, equality, Worker.enqueue,
            Worker.inHand?] using inHand
        · intro _
          exact untouched _ (by simp)
      · constructor
        · simpa [History.perform, Port.perform, equality] using stopping
        · rw [session]
          simp only [Session.observe, equality]
        · intro command phase inHand
          refine ⟨phase, ?_⟩
          simpa [History.perform, Port.perform, equality] using inHand
        · intro _
          exact untouched _ (by simp)
  | abandon number =>
      constructor
      · exact stopping
      · rw [session]
        rfl
      · intro command phase inHand
        exact ⟨phase, inHand⟩
      · intro _
        rfl
  | work => exact Cut.work watches stopping line now

end Cut

theorem earlier_run (line : Line σ) (actions : List (Nat × Port.Action))
    (history : History σ) :
    history.earlier.length ≤ (history.run line actions).earlier.length := by
  induction actions generalizing history with
  | nil => exact Nat.le_refl _
  | cons entry actions induction =>
      have first : history.earlier.length ≤
          (history.perform line entry.1 entry.2).earlier.length := by
        simp only [History.perform]
        split <;> simp
      exact Nat.le_trans first (induction _)

theorem Cut.run {history : History σ} (watches : history.Watches)
    (stopping : history.port.worker.stopping = true) (line : Line σ)
    {actions : List (Nat × Port.Action)}
    (same : (history.run line actions).earlier.length =
      history.earlier.length) :
    history.Cut (history.run line actions) := by
  induction actions generalizing history with
  | nil => exact Cut.refl stopping
  | cons entry actions induction =>
      have later := earlier_run line actions
        (history.perform line entry.1 entry.2)
      have final : ((history.perform line entry.1 entry.2).run line
          actions).earlier.length = history.earlier.length := same
      cases begins : history.port.beginsSession entry.2 with
      | true =>
          have more := (perform_of_begin line entry.1 begins).2
          rw [more, final, sessions, List.length_cons] at later
          omega
      | false =>
          have ongoing := (perform_of_ongoing line entry.1 begins).2
          have step := Cut.perform watches stopping line entry.1 begins
          apply step.trans
          apply induction (watches.perform line entry.1 entry.2) step.stopping
          rw [ongoing]
          exact final

end History

end MeterLine
