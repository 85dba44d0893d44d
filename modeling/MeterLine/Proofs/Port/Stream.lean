import Mathlib.Data.List.Chain
import Mathlib.Data.List.TakeWhile
import MeterLine.Proofs.Port.Feed
import MeterLine.Proofs.Port.Pace

/-!
# Replies as parts of a stream

The octets that arrive behind the drain of an exchange make up a stream.  The
reply is the part of it that was read, and what was not read waits in the
input.  Where arrivals follow each other closely, the reply is the beginning of
the stream, as long as a reply may be: how the octets were bunched, on their
way or in the reads, does not matter.
-/

namespace MeterLine

/-- Octets with the instants of their arrival. -/
abbrev Influx := List (UInt8 × Nat)

def Influx.octets (influx : Influx) : Bytes :=
  influx.map Prod.fst

namespace Line.Feed

variable {line : Line σ}

structure Advances (feed : line.Feed Nat) (clock : σ → Nat)
    (state after : σ) : Prop where
  passes : clock state ≤ clock after
  grows : feed.arrived state <+: feed.arrived after
  dated : ∀ entry ∈
    (feed.arrived after).drop (feed.arrived state).length,
      clock state ≤ entry.2 ∧ entry.2 ≤ clock after

variable {feed : line.Feed Nat} {clock : σ → Nat} {state after last : σ}

theorem Advances.refl (feed : line.Feed Nat) (clock : σ → Nat) (state : σ) :
    feed.Advances clock state state := by
  constructor
  · exact Nat.le_refl _
  · exact List.prefix_refl _
  · intro entry member
    rw [List.drop_length] at member
    cases member

theorem drop_of_grows (grows : feed.arrived state <+: feed.arrived after)
    (further : feed.arrived after <+: feed.arrived last) :
    (feed.arrived last).drop (feed.arrived state).length =
      (feed.arrived after).drop (feed.arrived state).length ++
        (feed.arrived last).drop (feed.arrived after).length := by
  obtain ⟨more, same⟩ := further
  rw [← same, List.drop_append_of_le_length grows.length_le, List.drop_left]

theorem Advances.trans (advances : feed.Advances clock state after)
    (further : feed.Advances clock after last) :
    feed.Advances clock state last := by
  constructor
  · exact Nat.le_trans advances.passes further.passes
  · exact advances.grows.trans further.grows
  · intro entry member
    rw [drop_of_grows advances.grows further.grows, List.mem_append] at member
    rcases member with old | new
    · obtain ⟨late, early⟩ := advances.dated entry old
      exact ⟨late, Nat.le_trans early further.passes⟩
    · obtain ⟨late, early⟩ := further.dated entry new
      exact ⟨Nat.le_trans advances.passes late, early⟩

end Line.Feed

/-- The input of a line as a queue of octets, each marked with the instant of
its arrival.  A read gives at least one octet at once whenever there are some,
and never more than were asked for.  A look sees all that has arrived. -/
structure Line.Intake (line : Line σ) where
  feed : line.Feed Nat
  clock : σ → Nat
  prompt : feed.Prompt
  measured : ∀ {now size : Nat} {state : σ} {octets : Bytes},
    (line.read now size state).value = .ready (.ok octets) →
      octets.length ≤ size
  looks : ∀ {now : Nat} {state : σ}, clock state ≤ now →
    feed.Advances clock state (line.available now state).line ∧
      clock (line.available now state).line = now
  reads : ∀ {now : Nat} (size : Nat) {state : σ}, clock state ≤ now →
    feed.Advances clock state (line.read now size state).line ∧
      clock (line.read now size state).line ≤ now
  writes : ∀ {now : Nat} (octets : Bytes) {state : σ}, clock state ≤ now →
    feed.Advances clock state (line.write now octets state).line ∧
      clock (line.write now octets state).line ≤ now
  flushes : ∀ {now : Nat} {state : σ}, clock state ≤ now →
    feed.Advances clock state (line.flush now state).line ∧
      clock (line.flush now state).line ≤ now

namespace Line.Intake

variable {line : Line σ}

def since (intake : line.Intake) (start state : σ) : Influx :=
  (intake.feed.arrived state).drop (intake.feed.arrived start).length

/-- What waits in the input. -/
def unread (intake : line.Intake) (state : σ) : Influx :=
  (intake.feed.arrived state).drop (intake.feed.consumed state)

end Line.Intake

namespace Exchange

variable {settings : PortSettings} {line : Line σ} {now : Nat}
  {request : Bytes} {wire : Wire σ} {phase : Phase} {result : Step σ}
  {intake : line.Intake}

theorem Moves.advances (intake : line.Intake)
    (moves : Moves settings line now request wire phase result)
    (known : intake.clock wire.line ≤ now) :
    intake.feed.Advances intake.clock wire.line result.wire.line ∧
      intake.clock result.wire.line ≤ now := by
  have still : intake.feed.Advances intake.clock wire.line wire.line ∧
      intake.clock wire.line ≤ now := ⟨.refl _ _ _, known⟩
  have looks : intake.feed.Advances intake.clock wire.line
      (line.available now wire.line).line ∧
      intake.clock (line.available now wire.line).line ≤ now :=
    ⟨(intake.looks known).1, Nat.le_of_eq (intake.looks known).2⟩
  have reads := fun size => intake.reads size known
  have writes := fun octets => intake.writes octets known
  have flushes := intake.flushes known
  cases moves <;>
    simp only [Step.wire, Wire.take_line, Wire.clear_line, Wire.sent_line,
      Wire.received_line, Wire.expired_line] <;>
    first
    | exact still
    | exact looks
    | exact reads _
    | exact writes _
    | exact flushes

/-- The reply of a phase, with what is being read, is not too long. -/
def Phase.WithinLimit : Phase → Prop
  | .reading reply _ size _ => reply.length + size ≤ replyLimit
  | phase => phase.gathered.length ≤ replyLimit

theorem Moves.withinLimit {later : Phase} {after : Wire σ}
    (intake : line.Intake)
    (moves : Moves settings line now request wire phase result)
    (goes : result.goesOn? = some (later, after))
    (within : phase.WithinLimit) : later.WithinLimit := by
  cases moves with
  | reads reply idle size deadline octets _ ready =>
      cases goes
      have measured := intake.measured ready
      simp only [Phase.WithinLimit, Phase.gathered, List.length_append] at *
      omega
  | _ =>
      cases goes
      all_goals
        simp only [Phase.WithinLimit, Phase.gathered, List.length_nil] at *
        omega

def Phase.Unread (intake : line.Intake) (state : σ) : Phase → Prop
  | .discarding size _ => 0 < size ∧
      intake.feed.consumed state < (intake.feed.arrived state).length
  | _ => True

theorem Moves.unread {later : Phase} {after : Wire σ}
    (moves : Moves settings line now request wire phase result)
    (goes : result.goesOn? = some (later, after))
    (unread : phase.Unread intake wire.line) :
    later.Unread intake after.line := by
  cases moves with
  | drainFinds count found =>
      cases goes
      have some_ := intake.prompt.finds now wire.line count found
      refine ⟨?_, by simpa using some_⟩
      simp only [chunkSize]
      omega
  | discardWaits size deadline wake _ pending =>
      obtain ⟨octets, _, ready⟩ :=
        intake.prompt.gives now size wire.line unread.1 unread.2
      rw [pending] at ready
      cases ready
  | _ =>
      cases goes
      all_goals trivial

/-- A drain ends by finding the input empty. -/
theorem Moves.clears {later : Phase} {after : Wire σ}
    (moves : Moves settings line now request wire phase result)
    (goes : result.goesOn? = some (later, after))
    (unread : phase.Unread intake wire.line)
    (drains : phase.drains = true) (past : later.drains = false) :
    phase = .draining ∧
      (line.available now wire.line).value = .ok 0 ∧
      after.line = (line.available now wire.line).line ∧
      later.gathered = [] := by
  cases moves with
  | drainEnds empty =>
      cases goes
      exact ⟨rfl, empty, by simp, rfl⟩
  | discardGivesUp size deadline fruitless =>
      obtain ⟨octets, more, ready⟩ :=
        intake.prompt.gives now size wire.line unread.1 unread.2
      rcases fruitless with nothing | ⟨_, wake, pending⟩
      · rw [ready] at nothing
        cases nothing
        exact (more rfl).elim
      · rw [ready] at pending
        cases pending
  | drainFinds => cases goes; cases past
  | discards => cases goes; cases past
  | discardWaits => cases goes; cases past
  | drainFails => cases goes
  | discardFails => cases goes
  | _ => cases drains

/-- What was read arrived by the instant `heard`, and polls since then, which
found nothing, were a tick apart; the next one is not before `since`. -/
inductive KeepsUp (settings : PortSettings) (intake : line.Intake) (start : σ)
    (reply : Bytes) (idle since : Nat) (state : σ) : Prop where
  | intro (heard polls : Nat) :
      reply ≠ [] → polls + idle = idlePolls →
      (∀ entry ∈ (intake.since start state).take reply.length,
        entry.2 ≤ heard) →
      heard + polls * settings.tick + settings.tick ≤ since →
      (0 < polls →
        intake.feed.consumed state = (intake.feed.arrived state).length ∧
          heard + polls * settings.tick ≤ intake.clock state) →
      KeepsUp settings intake start reply idle since state

/-- What holds of a reply that is read from the stream since a state of the
line. -/
inductive Follows (settings : PortSettings) (intake : line.Intake) (start : σ)
    (now : Nat) : Phase → σ → Prop where
  | polls (reply : Bytes) (idle : Nat) (state : σ) :
      KeepsUp settings intake start reply idle now state →
      Follows settings intake start now (.polling reply idle) state
  | reads (reply : Bytes) (idle size deadline : Nat) (state : σ) :
      0 < size →
      intake.feed.consumed state < (intake.feed.arrived state).length →
      Follows settings intake start now (.reading reply idle size deadline)
        state
  | rests (reply : Bytes) (idle wake : Nat) (state : σ) :
      KeepsUp settings intake start reply idle wake state →
      Follows settings intake start now (.resting reply idle wake) state

variable {start state : σ} {next : Nat}

theorem KeepsUp.since_le {reply : Bytes} {idle since later : Nat}
    (keeps : KeepsUp settings intake start reply idle since state)
    (passes : since ≤ later) :
    KeepsUp settings intake start reply idle later state := by
  obtain ⟨heard, polls, some_, count, begins, paced, empty⟩ := keeps
  exact .intro heard polls some_ count begins (Nat.le_trans paced passes) empty

theorem Follows.later (follows : Follows settings intake start now phase state)
    (passes : now ≤ next) :
    Follows settings intake start next phase state := by
  cases follows with
  | polls reply idle state keeps =>
      exact .polls reply idle state (keeps.since_le passes)
  | reads reply idle size deadline state positive unread =>
      exact .reads reply idle size deadline state positive unread
  | rests reply idle wake state keeps =>
      exact .rests reply idle wake state keeps

theorem Follows.past
    (follows : Follows settings intake start now phase state) :
    phase.drains = false := by
  cases follows <;> rfl

theorem since_take {after : σ} {reply : Bytes}
    (gathered : intake.feed.Gathered start state reply)
    (grows : intake.feed.arrived state <+: intake.feed.arrived after) :
    (intake.since start after).take reply.length =
      (intake.since start state).take reply.length := by
  obtain ⟨taken, same, rest, whole⟩ := gathered.since.first
  have long : taken.length = reply.length := by
    rw [← same, List.length_map]
  unfold Line.Intake.since
  rw [Line.Feed.drop_of_grows gathered.since.later grows, ← whole, ← long,
    List.append_assoc, List.take_left, List.take_left]

/-- One more look in vain. -/
theorem KeepsUp.look {reply : Bytes} {idle : Nat}
    (keeps : KeepsUp settings intake start reply (idle + 1) now state)
    (gathered : intake.feed.Gathered start state reply)
    (known : intake.clock state ≤ now)
    (nothing : (line.available now state).value = .ok 0) :
    KeepsUp settings intake start reply idle (now + settings.tick)
      (line.available now state).line := by
  obtain ⟨heard, polls, some_, count, begins, paced, _⟩ := keeps
  have looks := intake.looks known
  apply KeepsUp.intro heard (polls + 1)
  · exact some_
  · omega
  · rw [since_take gathered looks.1.grows]
    exact begins
  · rw [Nat.succ_mul]
    omega
  · intro _
    refine ⟨intake.feed.empties now state nothing, ?_⟩
    rw [looks.2, Nat.succ_mul]
    omega

/-- A read of all that was heard of. -/
theorem KeepsUp.read {reply octets : Bytes} {size : Nat}
    (advances : intake.feed.Advances intake.clock start
      (line.read now size state).line)
    (known : intake.clock (line.read now size state).line ≤ now)
    (more : octets ≠ []) :
    KeepsUp settings intake start (reply ++ octets) idlePolls
      (now + settings.tick) (line.read now size state).line := by
  apply KeepsUp.intro now 0
  · simp [more]
  · exact Nat.zero_add idlePolls
  · intro entry member
    exact Nat.le_trans (advances.dated entry (List.mem_of_mem_take member)).2
      known
  · rw [Nat.zero_mul]
    exact Nat.le_refl _
  · intro none
    cases none

theorem Follows.polled_reads {reply : Bytes} {idle count : Nat}
    (room : reply.length < replyLimit)
    (found : (line.available now wire.line).value = .ok (count + 1)) :
    Follows settings intake start now
      (.reading reply idle
        (min (min (count + 1) chunkSize) (replyLimit - reply.length))
        (now + settings.tick))
      (wire.take (line.available now wire.line)).line := by
  rw [Wire.take_line]
  apply Follows.reads
  · simp only [chunkSize]
    omega
  · exact intake.prompt.finds now wire.line count found

/-- The first poll of a reply, if data are available. -/
theorem Moves.opens {count : Nat} (intake : line.Intake)
    (moves : Moves settings line now request wire (.polling [] idlePolls)
      result)
    (found : (line.available now wire.line).value = .ok (count + 1)) :
    ∃ later after, result.goesOn? = some (later, after) ∧
      ∀ start, Follows settings intake start now later after.line := by
  cases moves with
  | finishes _ _ spent => exact absurd spent (by decide)
  | pollFails _ _ failure _ failed =>
      rw [found] at failed
      cases failed
  | pollsNothing _ _ _ nothing =>
      rw [found] at nothing
      cases nothing
  | polls _ _ count room found =>
      exact ⟨_, _, rfl, fun start => .polled_reads room found⟩

theorem Moves.follows {later : Phase} {after : Wire σ}
    (moves : Moves settings line now request wire phase result)
    (goes : result.goesOn? = some (later, after))
    (gathered : intake.feed.Gathered start wire.line phase.gathered)
    (advances : intake.feed.Advances intake.clock start wire.line)
    (known : intake.clock wire.line ≤ now)
    (follows : Follows settings intake start now phase wire.line) :
    Follows settings intake start now later after.line := by
  cases follows with
  | polls reply idle _ keeps =>
      cases moves with
      | finishes => cases goes
      | pollFails => cases goes
      | pollsNothing _ idle _ nothing =>
          cases goes
          rw [Wire.take_line]
          exact .rests _ _ _ _ (keeps.look gathered known nothing)
      | polls _ idle count room found =>
          cases goes
          exact .polled_reads room found
  | reads reply idle size deadline _ positive unread =>
      obtain ⟨octets, some_, ready⟩ :=
        intake.prompt.gives now size wire.line positive unread
      cases moves with
      | readFails => cases goes
      | readsNothing _ _ _ _ fruitless =>
          rcases fruitless with nothing | ⟨_, wake, pending⟩
          · rw [ready] at nothing
            cases nothing
            exact (some_ rfl).elim
          · rw [ready] at pending
            cases pending
      | reads _ _ _ _ octets more _ =>
          cases goes
          rw [Wire.take_line]
          have reads := intake.reads size known
          exact .rests _ _ _ _ (.read (advances.trans reads.1) reads.2 more)
      | readWaits _ _ _ _ wake _ pending =>
          rw [ready] at pending
          cases pending
  | rests reply idle wake _ keeps =>
      cases moves with
      | resumes _ _ _ awake =>
          cases goes
          exact .polls _ _ _ (keeps.since_le awake)
      | rests _ _ _ asleep =>
          cases goes
          exact .rests _ _ _ _ keeps

/-- Octets arrive less than ten ticks behind each other. -/
def Steady (settings : PortSettings) (stream : Influx) : Prop :=
  stream.IsChain fun entry next =>
    next.2 < entry.2 + idlePolls * settings.tick

instance (settings : PortSettings) (stream : Influx) :
    Decidable (Steady settings stream) :=
  inferInstanceAs (Decidable (stream.IsChain _))

theorem take_since_eq {final : σ} {reply : Bytes}
    (gathered : intake.feed.Gathered start state reply)
    (grows : intake.feed.arrived state <+: intake.feed.arrived final) :
    (intake.since start final).octets.take reply.length = reply := by
  obtain ⟨taken, same, rest, whole⟩ := gathered.since.first
  rw [Influx.octets, ← List.map_take, since_take gathered grows,
    Line.Intake.since, ← whole, ← same, List.length_map, List.take_left]

/-- No octet comes behind ten polls that found nothing. -/
theorem KeepsUp.last {reply : Bytes} {since : Nat} {final : σ}
    (keeps : KeepsUp settings intake start reply 0 since state)
    (gathered : intake.feed.Gathered start state reply)
    (further : intake.feed.Advances intake.clock state final)
    (steady : Steady settings (intake.since start final)) :
    (intake.since start final).length = reply.length := by
  obtain ⟨heard, polls, some_, count, begins, _, empty⟩ := keeps
  obtain ⟨all, late⟩ := empty (by simp only [idlePolls] at count; omega)
  have split : intake.since start final =
      intake.since start state ++ intake.since state final :=
    Line.Feed.drop_of_grows gathered.since.later further.grows
  have long : (intake.since start state).length = reply.length := by
    have consumed := gathered.consumed
    simp only [Line.Intake.since, List.length_drop]
    omega
  have before : intake.since start state ≠ [] := by
    intro nothing
    rw [nothing] at long
    exact some_ (List.length_eq_zero_iff.mp long.symm)
  rw [split, List.length_append, long]
  rw [split] at steady
  cases more : intake.since state final with
  | nil => rfl
  | cons next others =>
      rw [more] at steady
      have near := List.IsChain.rel_getLast_head_of_append steady before
        (List.cons_ne_nil next others)
      have early : ((intake.since start state).getLast before).2 ≤ heard := by
        apply begins
        rw [List.take_of_length_le (Nat.le_of_eq long)]
        exact List.getLast_mem before
      have member : next ∈ intake.since state final := by
        rw [more]
        exact List.mem_cons_self
      have behind := (further.dated next member).1
      obtain rfl : polls = idlePolls := count
      simp only [List.head_cons] at near
      omega

theorem Follows.complete {reply : Bytes} {idle : Nat} {final : σ}
    (follows : Follows settings intake start now (.polling reply idle) state)
    (gathered : intake.feed.Gathered start state reply)
    (within : reply.length ≤ replyLimit)
    (spent : idle = 0 ∨ replyLimit ≤ reply.length)
    (further : intake.feed.Advances intake.clock state final)
    (steady : Steady settings (intake.since start final)) :
    reply = (intake.since start final).octets.take replyLimit := by
  have begins := take_since_eq gathered further.grows
  rcases spent with rfl | full
  · cases follows with
    | polls _ _ _ keeps =>
        have long := keeps.last gathered further steady
        rw [← long] at begins within
        rw [List.take_of_length_le (by simp [Influx.octets])] at begins
        rw [List.take_of_length_le (by simpa [Influx.octets] using within)]
        exact begins.symm
  · rw [← begins, Nat.le_antisymm within full]

theorem Moves.finished {reply : Bytes} {after : Wire σ}
    (moves : Moves settings line now request wire phase
      (.done (.ok reply) after)) :
    after.line = wire.line ∧ ∃ idle, phase = .polling reply idle ∧
      (idle = 0 ∨ replyLimit ≤ reply.length) := by
  cases moves with
  | finishes _ idle spent => exact ⟨rfl, idle, rfl, spent⟩

end Exchange

namespace Worker

theorem step_advances {line : Line σ} (intake : line.Intake)
    (settings : PortSettings) {now : Nat} (worker : Worker) {wire : Wire σ}
    (known : intake.clock wire.line ≤ now) :
    let after := (worker.step settings line now wire).wire.line
    intake.feed.Advances intake.clock wire.line after ∧
      intake.clock after ≤ now := by
  intro after
  cases stage : worker.stage with
  | busy command phase =>
      have advances := (Exchange.step_moves settings line now command.request
        phase wire).advances intake known
      rcases step_of_busy settings line now wire stage with
        ⟨later, wire, goes, _, same, _⟩ | ⟨outcome, wire, done, _, same, _⟩
      · rw [Exchange.Step.wire_of_goesOn goes] at advances
        simpa only [after, same] using advances
      · rw [done] at advances
        simp only [after, same]
        cases outcome.isOk <;> exact advances
  | idle =>
      have nothing : worker.inHand? = none := by simp [inHand?, stage]
      have rest := step_of_rest settings line now wire nothing
      simp only [after, rest.1]
      exact ⟨.refl _ _ _, known⟩
  | stopped =>
      have nothing : worker.inHand? = none := by simp [inHand?, stage]
      have rest := step_of_rest settings line now wire nothing
      simp only [after, rest.1]
      exact ⟨.refl _ _ _, known⟩

/-- A course in which a command is replied to, on a line whose input is a
queue. -/
structure Reception (σ : Type) where
  course : Course σ
  intake : course.line.Intake
  ordered : ∀ index,
    (course.beats index).instant ≤ (course.beats (index + 1)).instant
  known : intake.clock course.wire.line ≤ (course.beats 0).instant
  command : Command
  first : Nat
  last : Nat
  reply : Bytes
  begun : (course.before first).worker.stage = .busy command Exchange.start
  returned : course.Completes command first last (.ok reply)

namespace Reception

def line (reception : Reception σ) (index : Nat) : σ :=
  (reception.course.before index).wire.line

abbrev Reaches (reception : Reception σ) (index : Nat)
    (phase : Exchange.Phase) : Prop :=
  reception.course.Reaches reception.command reception.first index phase

/-- The last look of the drain, which finds the input empty. -/
structure Clears (reception : Reception σ) (cleared : Nat) : Prop where
  drains : reception.Reaches cleared .draining
  empty : (reception.course.line.available
    (reception.course.beats cleared).instant
    (reception.line cleared)).value = .ok 0

/-- Data are available when the wait for them is over. -/
def Opens (reception : Reception σ) : Prop :=
  ∃ opened count, reception.Reaches opened (.polling [] Exchange.idlePolls) ∧
    (reception.course.line.available
      (reception.course.beats opened).instant
      (reception.line opened)).value = .ok (count + 1)

/-- What has arrived before a beat since the drain found the input empty. -/
def stream (reception : Reception σ) (cleared final : Nat) : Influx :=
  reception.intake.since (reception.line (cleared + 1)) (reception.line final)

variable {reception : Reception σ} {index later cleared : Nat}
  {phase : Exchange.Phase}

theorem found (reception : Reception σ) (index : Nat) :
    (reception.course.found index).line = reception.line index :=
  Course.found_line reception.course index

theorem line_of_goesOn {later : Exchange.Phase} {wire : Wire σ}
    (busy : (reception.course.before index).worker.stage =
      .busy reception.command phase)
    (goes : (reception.course.stepAt reception.command phase index).goesOn? =
      some (later, wire)) : reception.line (index + 1) = wire.line := by
  rw [line, (Course.before_of_goesOn busy goes).2.1]

theorem beat_advances (reception : Reception σ)
    (known : reception.intake.clock (reception.line index) ≤
      (reception.course.beats index).instant) :
    reception.intake.feed.Advances reception.intake.clock
        (reception.line index) (reception.line (index + 1)) ∧
      reception.intake.clock (reception.line (index + 1)) ≤
        (reception.course.beats index).instant := by
  rw [← reception.found] at known ⊢
  exact step_advances reception.intake reception.course.settings _ known

theorem clock_le (reception : Reception σ) (index : Nat) :
    reception.intake.clock (reception.line index) ≤
      (reception.course.beats index).instant := by
  induction index with
  | zero => exact reception.known
  | succ index induction =>
      exact Nat.le_trans (reception.beat_advances induction).2
        (reception.ordered index)

theorem advances (reception : Reception σ) (behind : index ≤ later) :
    reception.intake.feed.Advances reception.intake.clock
      (reception.line index) (reception.line later) := by
  induction behind with
  | refl => exact .refl _ _ _
  | @step later _ induction =>
      exact induction.trans
        (reception.beat_advances (reception.clock_le later)).1

structure Receives (reception : Reception σ) (index : Nat)
    (phase : Exchange.Phase) : Prop where
  unread : phase.Unread reception.intake (reception.line index)
  within : phase.WithinLimit
  gathered : phase.drains = false → ∃ cleared, cleared < index ∧
    reception.Clears cleared ∧
    reception.intake.feed.Gathered (reception.line (cleared + 1))
      (reception.line index) phase.gathered

theorem receives (reaches : reception.Reaches index phase) :
    reception.Receives index phase := by
  induction reaches with
  | begins phase busy =>
      cases reception.begun.symm.trans busy
      exact ⟨trivial, Nat.zero_le _, nofun⟩
  | @goesOn index phase later wire reaches goes induction =>
      have moves := Exchange.step_moves reception.course.settings
        reception.course.line (reception.course.beats index).instant
        reception.command.request phase (reception.course.found index)
      have line := line_of_goesOn reaches.busy goes
      have unread : phase.Unread reception.intake
          (reception.course.found index).line := by
        rw [Course.found_line]
        exact induction.unread
      constructor
      · rw [line]
        exact moves.unread goes unread
      · exact moves.withinLimit reception.intake goes induction.within
      · intro past
        cases drains : phase.drains with
        | true =>
            obtain ⟨rfl, empty, same, nothing⟩ :=
              moves.clears goes unread drains past
            rw [Course.found_line] at empty same
            refine ⟨index, Nat.lt_succ_self index, ⟨reaches, empty⟩, ?_⟩
            rw [line, same, nothing]
            exact .start (reception.intake.feed.empties _ _ empty)
        | false =>
            obtain ⟨cleared, behind, clears, gathered⟩ :=
              induction.gathered drains
            refine ⟨cleared, Nat.lt_succ_of_lt behind, clears, ?_⟩
            rw [line]
            rw [← reception.found index] at gathered
            exact (moves.gathers goes drains gathered).2

theorem Clears.next (clears : reception.Clears cleared) :
    ∃ deadline, reception.Reaches (cleared + 1)
      (.writing reception.command.request deadline) := by
  have ends : reception.course.stepAt reception.command .draining cleared =
      Exchange.drained reception.course.settings
        (reception.course.beats cleared).instant reception.command.request
        ((reception.course.found cleared).take
          (reception.course.line.available
            (reception.course.beats cleared).instant
            (reception.line cleared))) := by
    simp only [Course.stepAt, Exchange.step, Exchange.drain, reception.found,
      clears.empty]
  exact ⟨_, clears.drains.goesOn _ _ (congrArg Exchange.Step.goesOn? ends)⟩

theorem Clears.unique {other : Nat} (clears : reception.Clears cleared)
    (again : reception.Clears other) : cleared = other := by
  have never : ∀ {cleared other : Nat}, reception.Clears cleared →
      reception.Clears other → ¬cleared < other := by
    intro cleared other clears again behind
    obtain ⟨deadline, next⟩ := clears.next
    have onward := (again.drains.since next.le behind).2
    exact Nat.not_succ_le_zero _ (onward.order_le next.busy)
  exact Nat.le_antisymm (Nat.le_of_not_lt (never again clears))
    (Nat.le_of_not_lt (never clears again))

theorem finished (reception : Reception σ) :
    reception.line (reception.last + 1) = reception.line reception.last ∧
      ∃ idle,
        reception.Reaches reception.last (.polling reception.reply idle) ∧
        (idle = 0 ∨ Exchange.replyLimit ≤ reception.reply.length) := by
  obtain ⟨phase, wire, reaches, done⟩ := reception.returned
  obtain ⟨same, idle, rfl, spent⟩ := (Course.moves_of_step done).finished
  rw [reception.found] at same
  refine ⟨?_, idle, reaches, spent⟩
  rw [← same, line]
  simp only [Course.stepAt, Course.found] at done
  simp [Course.before, Worker.step, reaches.busy, done, answer, Except.isOk,
    Except.toBool]

theorem gathers (reception : Reception σ) :
    ∃ cleared, reception.Clears cleared ∧ cleared < reception.last ∧
      reception.intake.feed.Gathered (reception.line (cleared + 1))
        (reception.line reception.last) reception.reply := by
  obtain ⟨_, idle, reaches, _⟩ := reception.finished
  obtain ⟨cleared, behind, clears, gathered⟩ :=
    (receives reaches).gathered rfl
  exact ⟨cleared, clears, behind, gathered⟩

theorem follows_opened {opened count : Nat}
    (opens : reception.Reaches opened (.polling [] Exchange.idlePolls))
    (found : (reception.course.line.available
      (reception.course.beats opened).instant
      (reception.line opened)).value = .ok (count + 1)) (start : σ) :
    ∃ later, reception.Reaches (opened + 1) later ∧
      Exchange.Follows reception.course.settings reception.intake start
        (reception.course.beats (opened + 1)).instant later
        (reception.line (opened + 1)) := by
  rw [← reception.found] at found
  obtain ⟨later, wire, goes, follows⟩ :=
    (Course.moves_of_step rfl).opens reception.intake found
  refine ⟨later, opens.goesOn later wire goes, ?_⟩
  rw [line_of_goesOn opens.busy goes]
  exact (follows start).later (reception.ordered opened)

/-- From the first poll on, which finds data, the reply follows the stream. -/
theorem follows {opened count : Nat} (clears : reception.Clears cleared)
    (opens : reception.Reaches opened (.polling [] Exchange.idlePolls))
    (found : (reception.course.line.available
      (reception.course.beats opened).instant
      (reception.line opened)).value = .ok (count + 1))
    (behind : opened < index) (reaches : reception.Reaches index phase) :
    Exchange.Follows reception.course.settings reception.intake
      (reception.line (cleared + 1)) (reception.course.beats index).instant
      phase (reception.line index) := by
  have onward := (reaches.since (Nat.le_succ_of_le opens.le) behind).2
  obtain ⟨later, next, starts⟩ :=
    follows_opened opens found (reception.line (cleared + 1))
  clear reaches behind
  induction onward with
  | begins phase busy =>
      cases next.busy.symm.trans busy
      exact starts
  | @goesOn index phase later wire onward goes induction =>
      obtain ⟨other, behind, again, gathered⟩ :=
        (receives (next.trans onward)).gathered induction.past
      obtain rfl := clears.unique again
      have advances := reception.advances behind
      have known := reception.clock_le index
      rw [← reception.found index] at gathered advances known induction
      rw [line_of_goesOn onward.busy goes]
      exact ((Course.moves_of_step rfl).follows goes gathered advances known
        induction).later (reception.ordered index)

/-- All octets that arrive behind the drain, if they follow each other closely
and some of them are there when the wait for data is over. -/
def Flows (reception : Reception σ) (octets : Bytes) : Prop :=
  reception.Opens ∧ ∃ cleared final, reception.Clears cleared ∧
    reception.last < final ∧
    Exchange.Steady reception.course.settings
      (reception.stream cleared final) ∧
    (reception.stream cleared final).octets = octets

theorem Flows.reply {octets : Bytes} (flows : reception.Flows octets) :
    reception.reply = octets.take Exchange.replyLimit := by
  obtain ⟨⟨opened, count, opens, found⟩, cleared, final, clears, beyond,
    steady, rfl⟩ := flows
  obtain ⟨other, again, _, gathered⟩ := reception.gathers
  obtain rfl := clears.unique again
  obtain ⟨_, idle, reaches, spent⟩ := reception.finished
  obtain ⟨_, next, _⟩ :=
    follows_opened opens found (reception.line (cleared + 1))
  have behind : opened < reception.last := reception.returned.le_last next
  exact (follows clears opens found behind reaches).complete gathered
    (receives reaches).within spent
    (reception.advances (Nat.le_of_lt beyond)) steady

/-- The reply of an exchange is what arrived first since its drain found the
input empty, and all that arrived since then and was not returned waits in the
input.  Octets that follow each other closely, some of which are there when the
wait for data is over, are all returned, as long as a reply holds them; so it
does not matter how they were bunched. -/
theorem stream_returned (reception : Reception σ) :
    (∃ cleared, reception.Clears cleared) ∧
    (∀ cleared, reception.Clears cleared →
      reception.intake.unread (reception.line (cleared + 1)) = [] ∧
      reception.reply.length ≤ 256 ∧
      (reception.stream cleared (reception.last + 1)).octets =
        reception.reply ++ (reception.intake.unread
          (reception.line (reception.last + 1))).octets) ∧
    ∀ octets, reception.Flows octets →
      reception.reply = octets.take 256 ∧
      ∀ {τ : Type} (other : Reception τ), other.Flows octets →
        other.reply = reception.reply := by
  obtain ⟨same, idle, reaches, _⟩ := reception.finished
  obtain ⟨cleared, clears, _, gathered⟩ := reception.gathers
  refine ⟨⟨cleared, clears⟩, ?_, ?_⟩
  · intro other again
    obtain rfl := clears.unique again
    refine ⟨?_, (receives reaches).within, ?_⟩
    · simp [Line.Intake.unread, gathered.since.empty]
    · obtain ⟨taken, spelled, rest, whole⟩ := gathered.since.first
      have long : taken.length = reception.reply.length := by
        rw [← spelled, List.length_map]
      have unread : reception.intake.unread
          (reception.line reception.last) = rest := by
        rw [Line.Intake.unread, gathered.consumed, ← List.drop_drop, ← whole,
          ← long, List.drop_left]
      rw [same, unread, stream, same, Line.Intake.since, ← whole,
        Influx.octets, List.map_append, spelled]
      rfl
  · intro octets flows
    refine ⟨flows.reply, ?_⟩
    intro τ other flowsToo
    rw [flowsToo.reply, flows.reply]

end Reception

end Worker

/-- A line on which octets arrive at given instants. -/
structure BurstLine where
  past : Influx
  waiting : Influx
  coming : List (Nat × UInt8)
  clock : Nat

namespace BurstLine

def hear (now : Nat) (line : BurstLine) : BurstLine :=
  { line with
    waiting := line.waiting ++
      (line.coming.takeWhile fun entry => entry.1 ≤ now).map fun entry =>
        (entry.2, max line.clock entry.1)
    coming := line.coming.dropWhile fun entry => entry.1 ≤ now
    clock := now }

def interface (most : Nat) : Line BurstLine :=
  { available := fun now line =>
      { value := .ok (line.hear now).waiting.length
        line := line.hear now
        events := [] }
    read := fun _ size line =>
      let count := min size (most + 1)
      { value := .ready (.ok (Influx.octets (line.waiting.take count)))
        line :=
          { line with
            past := line.past ++ line.waiting.take count
            waiting := line.waiting.drop count }
        events := [] }
    write := fun _ octets line =>
      { value := .ready (.ok octets.length)
        line := line
        events := [] }
    flush := fun _ line =>
      { value := .ready (.ok ())
        line := line
        events := [] } }

def feed (most : Nat) : (interface most).Feed Nat :=
  { arrived := fun line => line.past ++ line.waiting
    consumed := fun line => line.past.length
    looks := by
      intro now line
      simp [interface, hear, ← List.append_assoc]
    empties := by
      intro now line nothing
      have empty : (line.hear now).waiting.length = 0 :=
        Except.ok.inj nothing
      have past : (line.hear now).past = line.past := rfl
      simp [interface, empty, past]
    reads := by
      intro now size line
      simp [interface]
    gives := by
      intro now size line octets ready
      cases ready
      refine ⟨line.waiting.take (min size (most + 1)), rfl, ?_, ?_⟩
      · simp [interface, List.take_prefix]
      · simp [interface, Influx.octets]
    waits := by
      intro now size line wake pending
      cases pending
    writes := fun _ _ _ => ⟨List.prefix_refl _, rfl⟩
    flushes := fun _ _ => ⟨List.prefix_refl _, rfl⟩ }

theorem prompt (most : Nat) : (feed most).Prompt := by
  constructor
  · intro now line count found
    have some_ : (line.hear now).waiting.length = count + 1 :=
      Except.ok.inj found
    have past : (line.hear now).past = line.past := rfl
    simp [feed, interface, some_, past]
  · intro now size line positive unread
    refine ⟨Influx.octets (line.waiting.take (min size (most + 1))), ?_, rfl⟩
    have some_ : line.waiting ≠ [] := by
      intro nothing
      simp [feed, nothing] at unread
    simp [Influx.octets, some_]
    omega

theorem advances_hear (most : Nat) {now : Nat} {line : BurstLine}
    (known : line.clock ≤ now) :
    (feed most).Advances BurstLine.clock line (line.hear now) := by
  constructor
  · exact known
  · simp [feed, hear, ← List.append_assoc]
  · intro entry member
    have arrived : entry ∈ (line.coming.takeWhile fun entry =>
        entry.1 ≤ now).map fun entry => (entry.2, max line.clock entry.1) := by
      simpa [feed, hear, ← List.append_assoc] using member
    obtain ⟨planned, inside, rfl⟩ := List.mem_map.mp arrived
    have due : planned.1 ≤ now := by
      simpa using List.mem_takeWhile_imp inside
    exact ⟨Nat.le_max_left _ _, Nat.max_le.mpr ⟨known, due⟩⟩

def intake (most : Nat) : (interface most).Intake :=
  { feed := feed most
    clock := BurstLine.clock
    prompt := prompt most
    measured := by
      intro now size line octets ready
      cases ready
      simp [Influx.octets]
    looks := fun known => ⟨advances_hear most known, rfl⟩
    reads := by
      intro now size line known
      refine ⟨⟨Nat.le_refl _, (feed most).reads now size line, ?_⟩, known⟩
      intro entry member
      simp [feed, interface] at member
    writes := fun _ _ known => ⟨.refl _ _ _, known⟩
    flushes := fun known => ⟨.refl _ _ _, known⟩ }

def command : Command :=
  { number := 1
    request := [1, 3, 0, 0, 0, 2, 196, 11] }

def course (most : Nat) (coming : List (Nat × UInt8)) :
    Worker.Course BurstLine :=
  Worker.Course.alone (PortSettings.named "burst") (interface most)
    { Worker.fresh with stage := .busy command Exchange.start }
    (Wire.fresh
      { past := []
        waiting := []
        coming := coming
        clock := 0 })

theorem asksAhead (most : Nat) : (interface most).AsksAhead := by
  constructor
  · intro now size line wake asks
    cases asks
  · intro now octets line wake asks
    cases asks
  · intro now line wake asks
    cases asks

theorem driven (most : Nat) (coming : List (Nat × UInt8)) :
    (course most coming).Driven :=
  Worker.Course.driven_alone _ _ _ _ (asksAhead most)

theorem reaches {most : Nat} {coming : List (Nat × UInt8)} {index : Nat}
    {phase : Exchange.Phase}
    (busy : ((course most coming).before index).worker.stage =
      .busy command phase)
    (unanswered : ((course most coming).before index).answers.isEmpty) :
    (course most coming).Reaches command 0 index phase := by
  have begun : ((course most coming).before 0).worker.stage =
      .busy command Exchange.start := rfl
  obtain ⟨other, reaches⟩ := Worker.Course.Reaches.of_unanswered begun
    (Nat.zero_le index) (List.isEmpty_iff.mp unanswered)
  cases busy.symm.trans reaches.busy
  exact reaches

def reception (most : Nat) (coming : List (Nat × UInt8)) (last : Nat)
    (reply : Bytes)
    (busy : ((course most coming).before last).worker.stage =
      .busy command (.polling reply 0))
    (unanswered : ((course most coming).before last).answers.isEmpty) :
    Worker.Reception BurstLine :=
  { course := course most coming
    intake := intake most
    ordered := (driven most coming).ordered
    known := Nat.le_refl 0
    command := command
    first := 0
    last := last
    reply := reply
    begun := rfl
    returned := ⟨_, _, reaches busy unanswered, rfl⟩ }

def bunched : Worker.Reception BurstLine :=
  reception 127 [(1, 1), (1, 3), (1, 4)] 42 [1, 3, 4] (by decide +kernel)
    (by decide +kernel)

def spread : Worker.Reception BurstLine :=
  reception 0 [(1, 1), (9, 3), (28, 4)] 83 [1, 3, 4] (by decide +kernel)
    (by decide +kernel)

theorem bunched_flows : bunched.Flows [1, 3, 4] := by
  refine ⟨⟨8, 2, reaches (by decide +kernel) (by decide +kernel),
    congrArg Except.ok (by decide +kernel)⟩, 0, 43,
    ⟨reaches (by decide +kernel) (by decide +kernel),
      congrArg Except.ok (by decide +kernel)⟩, ?_, ?_, ?_⟩
  · decide
  · decide +kernel
  · decide +kernel

theorem spread_flows : spread.Flows [1, 3, 4] := by
  refine ⟨⟨8, 0, reaches (by decide +kernel) (by decide +kernel),
    congrArg Except.ok (by decide +kernel)⟩, 0, 84,
    ⟨reaches (by decide +kernel) (by decide +kernel),
      congrArg Except.ok (by decide +kernel)⟩, ?_, ?_, ?_⟩
  · decide
  · decide +kernel
  · decide +kernel

end BurstLine

open BurstLine in
/-- It does not matter how the octets come and are read. -/
theorem Worker.Reception.bursts_returned_alike :
    bunched.reply = [1, 3, 4].take 256 ∧ spread.reply = bunched.reply := by
  obtain ⟨_, _, returned⟩ := stream_returned bunched
  obtain ⟨reply, alike⟩ := returned [1, 3, 4] bunched_flows
  exact ⟨reply, alike spread spread_flows⟩

end MeterLine
