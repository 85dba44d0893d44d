import Mathlib.Data.Nat.Count
import MeterLine.Proofs.Port.Counting
import MeterLine.Proofs.Port.Watching

/-!
# The pace of an exchange

An exchange goes through its four parts in order, and each of them is bounded
in time.  A phase knows the instant at which its part is left at the latest,
and no step puts that instant off.  A reply takes a bounded number of polls,
since an octet that makes the count of empty polls start anew takes up room.
So an exchange ends, whatever its line does, as long as its worker gets turns
when it asked for them and the drain is not fed for ever.
-/

namespace MeterLine

namespace Exchange

/-- The parts of an exchange, in their order. -/
inductive Part where
  | drain
  | write
  | watch
  | read
  deriving Repr, DecidableEq

namespace Part

def order : Part → Nat
  | .drain => 0
  | .write => 1
  | .watch => 2
  | .read => 3

end Part

def Phase.part : Phase → Part
  | .draining => .drain
  | .discarding _ _ => .drain
  | .writing _ _ => .write
  | .flushing _ => .write
  | .watching _ => .watch
  | .dozing _ _ => .watch
  | .polling _ _ => .read
  | .reading _ _ _ _ => .read
  | .resting _ _ _ => .read

def mostPolls : Nat := replyLimit * idlePolls

/-- Polls that are left: ten for every octet that there is room for, less those
that found nothing since the last octet. -/
def pollsLeft (reply : Bytes) (idle : Nat) : Nat :=
  (replyLimit - reply.length) * idlePolls - (idlePolls - idle)

def Phase.pollsLeft : Phase → Nat
  | .polling reply idle => Exchange.pollsLeft reply idle
  | .reading reply idle _ _ => Exchange.pollsLeft reply (idle - 1)
  | .resting reply idle _ => Exchange.pollsLeft reply idle
  | _ => mostPolls

def Phase.polls : Phase → Bool
  | .polling reply idle => idle != 0 && decide (reply.length < replyLimit)
  | _ => false

/-- The time of so many polls: a read and a rest take a tick each. -/
def pollTime (settings : PortSettings) (polls : Nat) : Nat :=
  polls * (2 * settings.tick)

def Part.limit (settings : PortSettings) : Part → Nat
  | .drain => settings.tick
  | .write => settings.wait
  | .watch => settings.wait + settings.tick
  | .read => pollTime settings mostPolls

def Part.rest (settings : PortSettings) : Part → Nat
  | .drain => write.limit settings + watch.limit settings + read.limit settings
  | .write => watch.limit settings + read.limit settings
  | .watch => read.limit settings
  | .read => 0

/-- The latest instant at which the part of a phase is left. -/
def Phase.leaves (settings : PortSettings) (now : Nat) : Phase → Nat
  | .draining => now + settings.tick
  | .discarding _ deadline => deadline
  | .writing _ deadline => deadline
  | .flushing deadline => deadline
  | .watching remaining => now + (remaining + settings.tick).toNat
  | .dozing remaining wake => wake + remaining.toNat
  | .polling reply idle =>
      now + pollTime settings (Exchange.pollsLeft reply idle)
  | .reading reply idle _ deadline =>
      deadline + settings.tick +
        pollTime settings (Exchange.pollsLeft reply (idle - 1))
  | .resting reply idle wake =>
      wake + pollTime settings (Exchange.pollsLeft reply idle)

/-- The latest instant at which the exchange is over. -/
def Phase.ends (settings : PortSettings) (now : Nat) (phase : Phase) : Nat :=
  phase.leaves settings now + phase.part.rest settings

def Phase.Timely (settings : PortSettings) (now : Nat) : Phase → Prop
  | .draining => True
  | .discarding _ deadline => now ≤ deadline ∧ deadline ≤ now + settings.tick
  | .writing _ deadline => now ≤ deadline ∧ deadline ≤ now + settings.wait
  | .flushing deadline => now ≤ deadline ∧ deadline ≤ now + settings.wait
  | .watching remaining => remaining ≤ settings.wait
  | .dozing remaining wake =>
      0 ≤ remaining ∧ remaining ≤ settings.wait ∧ now ≤ wake ∧
        wake ≤ now + settings.tick
  | .polling _ idle => idle ≤ idlePolls
  | .reading reply idle _ deadline =>
      0 < idle ∧ idle ≤ idlePolls ∧ reply.length < replyLimit ∧
        now ≤ deadline ∧ deadline ≤ now + settings.tick
  | .resting reply idle wake =>
      idle ≤ idlePolls ∧ Exchange.pollsLeft reply idle < mostPolls ∧
        now ≤ wake ∧ wake ≤ now + settings.tick

theorem wakeBy_le (deadline : Nat) (wake : Option Nat) :
    wakeBy deadline wake ≤ deadline := by
  cases wake with
  | none => exact Nat.le_refl deadline
  | some wake => exact Nat.min_le_right wake deadline

theorem watchTime_le (settings : PortSettings) :
    watchTime settings ≤ settings.wait := by
  unfold watchTime
  split <;> omega

theorem pollsLeft_le (reply : Bytes) (idle : Nat) :
    pollsLeft reply idle ≤ mostPolls := by
  simp only [pollsLeft, mostPolls, replyLimit, idlePolls]
  omega

theorem pollsLeft_succ {reply : Bytes} {idle : Nat}
    (room : reply.length < replyLimit) (few : idle + 1 ≤ idlePolls) :
    pollsLeft reply (idle + 1) = pollsLeft reply idle + 1 := by
  simp only [pollsLeft, replyLimit, idlePolls] at *
  omega

theorem pollsLeft_append {reply octets : Bytes} (idle : Nat)
    (room : reply.length < replyLimit) (more : octets ≠ []) :
    pollsLeft (reply ++ octets) idlePolls ≤ pollsLeft reply idle := by
  have long := List.length_pos_iff.mpr more
  simp only [pollsLeft, replyLimit, idlePolls, List.length_append] at *
  omega

theorem pollTime_succ (settings : PortSettings) (polls : Nat) :
    pollTime settings (polls + 1) =
      pollTime settings polls + 2 * settings.tick :=
  Nat.succ_mul polls _

theorem pollTime_le (settings : PortSettings) {polls more : Nat}
    (fewer : polls ≤ more) :
    pollTime settings polls ≤ pollTime settings more :=
  Nat.mul_le_mul_right _ fewer

def Phase.deadline? : Phase → Option Nat
  | .discarding _ deadline => some deadline
  | .writing _ deadline => some deadline
  | .flushing deadline => some deadline
  | .dozing _ wake => some wake
  | .reading _ _ _ deadline => some deadline
  | .resting _ _ wake => some wake
  | _ => none

variable {settings : PortSettings} {line : Line σ} {now next : Nat}
  {request : Bytes} {wire after : Wire σ} {phase later : Phase}

theorem Moves.waits {wake : Nat}
    (moves : Moves settings line now request wire phase
      (.wait later after wake)) :
    later = phase ∧ ∃ deadline, phase.deadline? = some deadline ∧
      now < deadline ∧ wake ≤ deadline := by
  cases moves with
  | discardWaits size deadline wake early _ =>
      exact ⟨rfl, deadline, rfl, early, wakeBy_le deadline wake⟩
  | writeWaits rest deadline wake _ early _ =>
      exact ⟨rfl, deadline, rfl, early, wakeBy_le deadline wake⟩
  | flushWaits deadline wake early _ =>
      exact ⟨rfl, deadline, rfl, early, wakeBy_le deadline wake⟩
  | dozes remaining wake early =>
      exact ⟨rfl, wake, rfl, early, Nat.le_refl wake⟩
  | readWaits reply idle size deadline wake early _ =>
      exact ⟨rfl, deadline, rfl, early, wakeBy_le deadline wake⟩
  | rests reply idle wake early =>
      exact ⟨rfl, wake, rfl, early, Nat.le_refl wake⟩

theorem Phase.Timely.wait {deadline : Nat} (timely : phase.Timely settings now)
    (waits : phase.deadline? = some deadline) (passes : now ≤ next)
    (inTime : next ≤ deadline) : phase.Timely settings next := by
  cases phase <;> cases waits <;> simp only [Phase.Timely] at * <;> omega

theorem Phase.leaves_of_waits {deadline : Nat} (now next : Nat)
    (waits : phase.deadline? = some deadline) :
    phase.leaves settings next = phase.leaves settings now := by
  cases phase <;> cases waits <;> rfl

theorem Moves.timely
    (moves : Moves settings line now request wire phase (.next later after))
    (timely : phase.Timely settings now) : later.Timely settings now := by
  have counted := watchTime_le settings
  cases moves with
  | reads reply idle size deadline octets more _ =>
      have fewer := pollsLeft_append 0 timely.2.2.1 more
      simp only [Phase.Timely, pollsLeft, mostPolls, replyLimit, idlePolls]
        at *
      omega
  | drainFinds => simp [Phase.Timely]
  | _ =>
      simp only [Phase.Timely, pollsLeft, mostPolls, replyLimit, idlePolls]
        at *
      try omega

theorem Moves.order_le
    (moves : Moves settings line now request wire phase (.next later after)) :
    phase.part.order ≤ later.part.order := by
  cases moves <;> simp [Phase.part, Part.order]

/-- No step puts off the instant at which its part is left. -/
theorem Moves.leaves_le
    (moves : Moves settings line now request wire phase (.next later after))
    (timely : phase.Timely settings now) (same : later.part = phase.part)
    (atOnce : ∀ size deadline octets, phase = .discarding size deadline →
      octets ≠ [] →
      (line.read now size wire.line).value = .ready (.ok octets) →
        deadline = now + settings.tick) :
    later.leaves settings now ≤ phase.leaves settings now := by
  cases moves with
  | discards size deadline octets more ready =>
      exact Nat.le_of_eq (atOnce size deadline octets rfl more ready).symm
  | pollsNothing reply idle room _ =>
      simp only [Phase.leaves, pollsLeft_succ room timely, pollTime_succ]
      omega
  | polls reply idle count room _ =>
      simp only [Phase.leaves, pollsLeft_succ room timely, pollTime_succ,
        Nat.add_sub_cancel]
      omega
  | reads reply idle size deadline octets more _ =>
      obtain ⟨_, _, room, inTime, _⟩ := timely
      have fewer := pollTime_le settings
        (pollsLeft_append (idle - 1) room more)
      simp only [Phase.leaves]
      omega
  | _ =>
      cases same
      all_goals
        simp only [Phase.Timely, Phase.leaves] at *
        omega

theorem Phase.pollsLeft_of_polls (phase : Phase) :
    (if phase.polls then 1 else 0) ≤ phase.pollsLeft := by
  cases phase with
  | polling reply idle =>
      split
      case isTrue polling =>
          obtain ⟨some_, room⟩ : idle ≠ 0 ∧ reply.length < replyLimit := by
            simpa [Phase.polls] using polling
          simp only [Phase.pollsLeft, Exchange.pollsLeft, replyLimit,
            idlePolls] at *
          omega
      case isFalse => exact Nat.zero_le _
  | _ => exact Nat.zero_le _

/-- Every poll uses up one of those that are left. -/
theorem Moves.pollsLeft_le
    (moves : Moves settings line now request wire phase (.next later after))
    (timely : phase.Timely settings now) :
    later.pollsLeft + (if phase.polls then 1 else 0) ≤ phase.pollsLeft := by
  cases moves with
  | pollsNothing reply idle room _ =>
      simp [Phase.pollsLeft, Phase.polls, room, pollsLeft_succ room timely]
  | polls reply idle count room _ =>
      simp [Phase.pollsLeft, Phase.polls, room, pollsLeft_succ room timely]
  | reads reply idle size deadline octets more _ =>
      simpa [Phase.pollsLeft, Phase.polls] using
        pollsLeft_append (idle - 1) timely.2.2.1 more
  | hears => simp [Phase.pollsLeft, Phase.polls, pollsLeft_le]
  | finds => simp [Phase.pollsLeft, Phase.polls, pollsLeft_le]
  | _ => simp [Phase.pollsLeft, Phase.polls]

def Phase.pollEnds (settings : PortSettings) (now : Nat) : Phase → Nat
  | .reading _ _ _ deadline => deadline + settings.tick
  | .resting _ _ wake => wake
  | _ => now

theorem Phase.Timely.le_pollEnds (timely : phase.Timely settings now) :
    now ≤ phase.pollEnds settings now := by
  cases phase <;> simp only [Phase.Timely, Phase.pollEnds] at * <;> omega

theorem Moves.pollEnds_le
    (moves : Moves settings line now request wire phase (.next later after))
    (timely : phase.Timely settings now) (reads : phase.part = .read) :
    later.part = .read ∧ later.pollEnds settings now ≤
      if phase.polls then now + 2 * settings.tick
      else phase.pollEnds settings now := by
  cases moves with
  | pollsNothing reply idle room _ =>
      simp only [Phase.part, Phase.polls, Phase.pollEnds, room]
      simp
      omega
  | polls reply idle count room _ =>
      simp only [Phase.part, Phase.polls, Phase.pollEnds, room]
      simp
      omega
  | _ =>
      cases reads
      all_goals
        simp [Phase.part, Phase.polls, Phase.pollEnds, Phase.Timely] at *
        omega

theorem Phase.pollEnds_of_waits {deadline : Nat} (now next : Nat)
    (waits : phase.deadline? = some deadline) (reads : phase.part = .read) :
    phase.pollEnds settings next = phase.pollEnds settings now := by
  cases phase with
  | polling reply idle => cases waits
  | _ => first | rfl | cases reads

/-- A number that every step makes smaller that does not wait, but for the
reads of left-over octets. -/
def Phase.effort (settings : PortSettings) (request : Bytes) : Phase → Nat
  | .draining =>
      (Phase.watching settings.wait).rank + request.length + 4
  | .discarding _ _ =>
      (Phase.watching settings.wait).rank + request.length + 3
  | .writing rest _ =>
      (Phase.watching settings.wait).rank + rest.length + 2
  | .flushing _ => (Phase.watching settings.wait).rank + 1
  | phase => phase.rank

theorem Moves.effort_lt
    (moves : Moves settings line now request wire phase (.next later after))
    (timely : phase.Timely settings now)
    (dry : ∀ size deadline octets, phase = .discarding size deadline →
      (line.read now size wire.line).value = .ready (.ok octets) →
        octets = []) :
    later.effort settings request < phase.effort settings request := by
  have passes := settings.tick_pos
  have counted := watchTime_le settings
  cases moves with
  | discards size deadline octets more ready =>
      exact (more (dry size deadline octets rfl ready)).elim
  | writes rest deadline count more _ =>
      have long := List.length_pos_iff.mpr more
      simp only [Phase.effort, List.length_drop]
      omega
  | reads reply idle size deadline octets more _ =>
      have long := List.length_pos_iff.mpr more
      obtain ⟨_, _, room, _, _⟩ := timely
      simp only [Phase.effort, Phase.rank, replyLimit, idlePolls,
        List.length_append] at *
      omega
  | _ =>
      simp only [Phase.Timely, Phase.effort, Phase.rank, replyLimit, idlePolls,
        List.length_nil] at *
      omega

theorem Phase.Timely.le_leaves (timely : phase.Timely settings now) :
    now ≤ phase.leaves settings now := by
  cases phase <;> simp only [Phase.Timely, Phase.leaves] at * <;> omega

theorem Phase.Timely.leaves_le (timely : phase.Timely settings now) :
    phase.leaves settings now ≤ now + phase.part.limit settings := by
  cases phase with
  | polling reply idle =>
      exact Nat.add_le_add_left
        (pollTime_le settings (pollsLeft_le reply idle)) now
  | reading reply idle size deadline =>
      obtain ⟨some_, few, room, _, late⟩ := timely
      have fits : idle - 1 + 1 ≤ idlePolls := by omega
      have succ := pollsLeft_succ room fits
      rw [Nat.sub_add_cancel some_] at succ
      have within := pollTime_le settings (pollsLeft_le reply idle)
      rw [succ, pollTime_succ] at within
      simp only [Phase.leaves, Phase.part, Part.limit]
      omega
  | resting reply idle wake =>
      obtain ⟨_, fewer, _, late⟩ := timely
      have within := pollTime_le settings (Nat.succ_le_of_lt fewer)
      rw [pollTime_succ] at within
      simp only [Phase.leaves, Phase.part, Part.limit]
      omega
  | _ =>
      simp only [Phase.Timely, Phase.leaves, Phase.part, Part.limit] at *
      omega

theorem Part.eq_of_order {part other : Part}
    (same : part.order = other.order) : part = other := by
  cases part <;> cases other <;> first | rfl | cases same

theorem Part.limit_add_rest_le (settings : PortSettings) {part other : Part}
    (behind : part.order < other.order) :
    other.limit settings + other.rest settings ≤ part.rest settings := by
  cases part <;> cases other <;> simp only [Part.order] at behind <;>
    simp only [Part.rest] <;> omega

/-- From one instant to a later one an exchange gets on within its limits. -/
structure Paced (settings : PortSettings) (now : Nat) (phase : Phase)
    (next : Nat) (later : Phase) : Prop where
  timely : later.Timely settings next
  order : phase.part.order ≤ later.part.order
  leaves : later.part = phase.part →
    later.leaves settings next ≤ phase.leaves settings now
  ends : later.ends settings next ≤ phase.ends settings now

theorem Paced.refl (timely : phase.Timely settings now) :
    Paced settings now phase now phase :=
  ⟨timely, Nat.le_refl _, fun _ => Nat.le_refl _, Nat.le_refl _⟩

theorem Paced.trans {last : Nat} {other : Phase}
    (paced : Paced settings now phase next later)
    (further : Paced settings next later last other) :
    Paced settings now phase last other := by
  constructor
  · exact further.timely
  · exact Nat.le_trans paced.order further.order
  · intro same
    have between : later.part = phase.part := by
      apply Part.eq_of_order
      have behind := further.order
      rw [same] at behind
      exact Nat.le_antisymm behind paced.order
    exact Nat.le_trans (further.leaves (same.trans between.symm))
      (paced.leaves between)
  · exact Nat.le_trans further.ends paced.ends

theorem Paced.of_waits {deadline : Nat} (timely : phase.Timely settings now)
    (waits : phase.deadline? = some deadline) (passes : now ≤ next)
    (inTime : next ≤ deadline) : Paced settings now phase next phase := by
  have same : phase.leaves settings next = phase.leaves settings now :=
    Phase.leaves_of_waits now next waits
  constructor
  · exact timely.wait waits passes inTime
  · exact Nat.le_refl _
  · intro _
    exact Nat.le_of_eq same
  · exact Nat.le_of_eq (congrArg (· + phase.part.rest settings) same)

theorem Moves.paced
    (moves : Moves settings line now request wire phase (.next later after))
    (timely : phase.Timely settings now)
    (atOnce : ∀ size deadline octets, phase = .discarding size deadline →
      octets ≠ [] →
      (line.read now size wire.line).value = .ready (.ok octets) →
        deadline = now + settings.tick) :
    Paced settings now phase now later := by
  have inTime := moves.timely timely
  constructor
  · exact inTime
  · exact moves.order_le
  · intro same
    exact moves.leaves_le timely same atOnce
  · unfold Phase.ends
    by_cases same : later.part = phase.part
    · rw [same]
      exact Nat.add_le_add_right (moves.leaves_le timely same atOnce) _
    · have behind : phase.part.order < later.part.order :=
        Nat.lt_of_le_of_ne moves.order_le
          fun equal => same (Part.eq_of_order equal).symm
      calc
        later.leaves settings now + later.part.rest settings
            ≤ now + later.part.limit settings + later.part.rest settings :=
          Nat.add_le_add_right inTime.leaves_le _
        _ ≤ now + phase.part.rest settings := by
          have room := Part.limit_add_rest_le settings behind
          omega
        _ ≤ phase.leaves settings now + phase.part.rest settings :=
          Nat.add_le_add_right timely.le_leaves _

end Exchange

namespace Worker

namespace Course

def turn (course : Course σ) (index : Nat) : Progress σ :=
  (course.before index).worker.step course.settings course.line
    (course.beats index).instant (course.found index)

/-- The worker gets a turn whenever it has something to do: at once if there is
more to do at once, and not later than it asked for if it waits.  Time passes
as long as there is nothing to do at once. -/
structure Driven (course : Course σ) : Prop where
  ordered : ∀ index,
    (course.beats index).instant ≤ (course.beats (index + 1)).instant
  atOnce : ∀ index, (course.turn index).more = true →
    (course.beats (index + 1)).instant = (course.beats index).instant
  inTime : ∀ index wake, (course.turn index).wake = some wake →
    (course.beats (index + 1)).instant ≤ max (course.beats index).instant wake
  passes : ∀ index instant, ∃ later, index ≤ later ∧
    (instant ≤ (course.beats later).instant ∨
      (course.turn later).more = true)

/-- The exchange of a command that is in hand at one beat has got to a phase at
a later one. -/
inductive Reaches (course : Course σ) (command : Command) (first : Nat) :
    Nat → Exchange.Phase → Prop where
  | begins (phase : Exchange.Phase) :
      (course.before first).worker.stage = .busy command phase →
      Reaches course command first first phase
  | goesOn {index : Nat} {phase : Exchange.Phase} (later : Exchange.Phase)
      (wire : Wire σ) :
      Reaches course command first index phase →
      (course.stepAt command phase index).goesOn? = some (later, wire) →
      Reaches course command first (index + 1) later

/-- The exchange of a command that is in hand at one beat comes to its outcome
at another. -/
inductive Completes (course : Course σ) (command : Command)
    (first last : Nat) (outcome : Except Failure Bytes) : Prop where
  | intro (phase : Exchange.Phase) (wire : Wire σ) :
      course.Reaches command first last phase →
      course.stepAt command phase last = .done outcome wire →
      Completes course command first last outcome

variable {course : Course σ} {command : Command} {first index last : Nat}
  {start phase later : Exchange.Phase} {outcome : Except Failure Bytes}

namespace Reaches

theorem le (reaches : course.Reaches command first index phase) :
    first ≤ index := by
  induction reaches with
  | begins => exact Nat.le_refl first
  | goesOn _ _ _ _ before => exact Nat.le_succ_of_le before

theorem busy (reaches : course.Reaches command first index phase) :
    (course.before index).worker.stage = .busy command phase := by
  induction reaches with
  | begins _ busy => exact busy
  | goesOn later wire _ goes busy => exact (before_of_goesOn busy goes).1

theorem answers (reaches : course.Reaches command first index phase) :
    (course.before index).answers = (course.before first).answers := by
  induction reaches with
  | begins => rfl
  | goesOn later wire reaches goes same =>
      rw [(before_of_goesOn reaches.busy goes).2.2, same]

theorem unique (reaches : course.Reaches command first index phase)
    (other : course.Reaches command first index later) : phase = later := by
  have same := reaches.busy.symm.trans other.busy
  cases same
  rfl

theorem since {between : Nat}
    (reaches : course.Reaches command first index phase)
    (behind : first ≤ between) (within : between ≤ index) :
    (∃ other, course.Reaches command first between other) ∧
      course.Reaches command between index phase := by
  induction reaches with
  | begins phase busy =>
      obtain rfl := Nat.le_antisymm within behind
      exact ⟨⟨phase, .begins phase busy⟩, .begins phase busy⟩
  | @goesOn index phase later wire reaches goes induction =>
      rcases Nat.le_succ_iff.mp within with inside | rfl
      · obtain ⟨present, onward⟩ := induction inside
        exact ⟨present, .goesOn later wire onward goes⟩
      · exact ⟨⟨later, .goesOn later wire reaches goes⟩,
          .begins later (before_of_goesOn reaches.busy goes).1⟩

end Reaches

theorem Completes.answers
    (completes : course.Completes command first last outcome) :
    (course.before (last + 1)).answers =
      (course.before first).answers ++
        [{ number := command.number
           outcome := outcome }] := by
  obtain ⟨phase, wire, reaches, done⟩ := completes
  rw [before_of_done reaches.busy done, reaches.answers]

theorem Completes.le_last
    (completes : course.Completes command first last outcome)
    (reaches : course.Reaches command first index phase) : index ≤ last := by
  obtain ⟨final, wire, arrives, done⟩ := completes
  apply Nat.le_of_not_lt
  intro beyond
  obtain ⟨⟨other, next⟩, _⟩ :=
    reaches.since (Nat.le_succ_of_le arrives.le) beyond
  cases next with
  | begins =>
      exact Nat.not_succ_le_self last arrives.le
  | @goesOn _ before _ after reaches goes =>
      rw [reaches.unique arrives, done] at goes
      cases goes

theorem answers_prefix (course : Course σ) {later : Nat}
    (behind : index ≤ later) :
    (course.before index).answers <+: (course.before later).answers := by
  induction behind with
  | refl => exact List.prefix_refl _
  | step _ induction => exact induction.trans (List.prefix_append _ _)

theorem Reaches.of_unanswered
    (begun : (course.before first).worker.stage = .busy command start)
    (behind : first ≤ index)
    (unanswered : (course.before index).answers =
      (course.before first).answers) :
    ∃ phase, course.Reaches command first index phase := by
  induction behind with
  | refl => exact ⟨start, .begins start begun⟩
  | @step index behind induction =>
      have still : (course.before index).answers =
          (course.before first).answers := by
        apply List.IsPrefix.eq_of_length_le
        · rw [← unanswered]
          exact course.answers_prefix (Nat.le_succ index)
        · exact (course.answers_prefix behind).length_le
      obtain ⟨phase, reaches⟩ := induction still
      cases step : course.stepAt command phase index with
      | next later wire =>
          exact ⟨later, reaches.goesOn later wire (congrArg _ step)⟩
      | wait later wire wake =>
          exact ⟨later, reaches.goesOn later wire (congrArg _ step)⟩
      | done outcome wire =>
          have ended := before_of_done reaches.busy step
          rw [unanswered, still] at ended
          simp at ended

theorem turn_of_busy
    (busy : (course.before index).worker.stage = .busy command phase) :
    (∀ later wire, course.stepAt command phase index = .next later wire →
      (course.turn index).more = true) ∧
    ∀ later wire wake,
      course.stepAt command phase index = .wait later wire wake →
        (course.turn index).more = false ∧
          (course.turn index).wake = some wake := by
  constructor
  · intro later wire step
    simp only [stepAt] at step
    simp [turn, Worker.step, busy, step]
  · intro later wire wake step
    simp only [stepAt] at step
    simp [turn, Worker.step, busy, step]

theorem moves_of_step {result : Exchange.Step σ}
    (step : course.stepAt command phase index = result) :
    Exchange.Moves course.settings course.line (course.beats index).instant
      command.request (course.found index) phase result := by
  rw [← step]
  exact Exchange.step_moves _ _ _ _ _ _

theorem Driven.clock (driven : course.Driven)
    (busy : (course.before index).worker.stage = .busy command phase)
    {wire : Wire σ}
    (goes : (course.stepAt command phase index).goesOn? =
      some (later, wire)) :
    (course.stepAt command phase index = .next later wire ∧
      (course.beats (index + 1)).instant = (course.beats index).instant) ∨
    (later = phase ∧ (course.turn index).more = false ∧
      ∃ deadline, phase.deadline? = some deadline ∧
        (course.beats (index + 1)).instant ≤ deadline) := by
  have turns := turn_of_busy busy
  cases step : course.stepAt command phase index with
  | next other after =>
      rw [step] at goes
      cases goes
      exact Or.inl ⟨rfl, driven.atOnce index (turns.1 _ _ step)⟩
  | wait other after wake =>
      rw [step] at goes
      cases goes
      obtain ⟨still, asks⟩ := turns.2 _ _ _ step
      have prompt := driven.inTime index wake asks
      obtain ⟨same, deadline, waits, early, within⟩ :=
        (moves_of_step step).waits
      exact Or.inr ⟨same, still, deadline, waits, by omega⟩
  | done outcome after =>
      rw [step] at goes
      cases goes

theorem Driven.le (driven : course.Driven) {before after : Nat}
    (behind : before ≤ after) :
    (course.beats before).instant ≤ (course.beats after).instant := by
  induction behind with
  | refl => exact Nat.le_refl _
  | step _ induction => exact Nat.le_trans induction (driven.ordered _)

/-- A read of left-over octets that brings some is answered at the instant at
which it was begun. -/
def DrainsAtOnce (course : Course σ) (command : Command) (first : Nat) :
    Prop :=
  ∀ index size deadline octets,
    course.Reaches command first index (.discarding size deadline) →
    octets ≠ [] →
    (course.line.read (course.beats index).instant size
      (course.before index).wire.line).value = .ready (.ok octets) →
    deadline = (course.beats index).instant + course.settings.tick

/-- From a beat on, no read of left-over octets brings any. -/
def DryFrom (course : Course σ) (command : Command) (first dry : Nat) :
    Prop :=
  ∀ index size deadline octets, dry ≤ index →
    course.Reaches command first index (.discarding size deadline) →
    (course.line.read (course.beats index).instant size
      (course.before index).wire.line).value = .ready (.ok octets) →
    octets = []

theorem Reaches.order_le {start : Exchange.Phase}
    (begun : (course.before first).worker.stage = .busy command start)
    (reaches : course.Reaches command first index phase) :
    start.part.order ≤ phase.part.order := by
  induction reaches with
  | begins phase busy =>
      cases begun.symm.trans busy
      exact Nat.le_refl _
  | @goesOn index phase later wire reaches goes induction =>
      apply Nat.le_trans induction
      cases step : course.stepAt command phase index with
      | next other after =>
          rw [step] at goes
          cases goes
          exact (moves_of_step step).order_le
      | wait other after wake =>
          rw [step] at goes
          cases goes
          rw [(moves_of_step step).waits.1]
      | done outcome after =>
          rw [step] at goes
          cases goes

/-- The exchange of a command goes on from a timely phase, and gets the turns
that it needs. -/
structure Clocked (course : Course σ) (command : Command) (first : Nat)
    (start : Exchange.Phase) : Prop where
  driven : course.Driven
  begun : (course.before first).worker.stage = .busy command start
  timely : start.Timely course.settings (course.beats first).instant
  atOnce : course.DrainsAtOnce command first

theorem Clocked.paced (clocked : course.Clocked command first start)
    (reaches : course.Reaches command first index phase) :
    Exchange.Paced course.settings (course.beats first).instant start
      (course.beats index).instant phase := by
  induction reaches with
  | begins phase busy =>
      cases clocked.begun.symm.trans busy
      exact .refl clocked.timely
  | @goesOn index phase later wire reaches goes paced =>
      apply paced.trans
      rcases clocked.driven.clock reaches.busy goes with
        ⟨step, same⟩ | ⟨rfl, _, deadline, waits, inTime⟩
      · rw [same]
        apply (moves_of_step step).paced paced.timely
        rintro size deadline octets rfl more ready
        rw [found_line] at ready
        exact clocked.atOnce index size deadline octets reaches more ready
      · exact .of_waits paced.timely waits (clocked.driven.ordered index)
          inTime

theorem Reaches.trans {between : Nat} {other : Exchange.Phase}
    (reaches : course.Reaches command first between other)
    (onward : course.Reaches command between index phase) :
    course.Reaches command first index phase := by
  induction onward with
  | begins phase busy =>
      cases reaches.busy.symm.trans busy
      exact reaches
  | goesOn later wire _ goes induction =>
      exact .goesOn later wire induction goes

theorem Clocked.onward (clocked : course.Clocked command first start)
    (reaches : course.Reaches command first index phase) :
    course.Clocked command index phase := by
  constructor
  · exact clocked.driven
  · exact reaches.busy
  · exact (clocked.paced reaches).timely
  · intro later size deadline octets onward more ready
    exact clocked.atOnce later size deadline octets (reaches.trans onward) more
      ready

theorem Reaches.goes (reaches : course.Reaches command first index phase) :
    (∃ outcome, course.Completes command first index outcome) ∨
      ∃ later wire,
        (course.stepAt command phase index).goesOn? = some (later, wire) ∧
          course.Reaches command first (index + 1) later := by
  cases step : course.stepAt command phase index with
  | done outcome wire =>
      exact Or.inl ⟨outcome, phase, wire, reaches, step⟩
  | next later wire =>
      exact Or.inr ⟨later, wire, rfl,
        reaches.goesOn later wire (congrArg _ step)⟩
  | wait later wire wake =>
      exact Or.inr ⟨later, wire, rfl,
        reaches.goesOn later wire (congrArg _ step)⟩

theorem Reaches.onward
    (reaches : course.Reaches command first index phase) (beats : Nat) :
    (∃ last outcome, course.Completes command first last outcome) ∨
      ∃ later, course.Reaches command first (index + beats) later := by
  induction beats with
  | zero => exact Or.inr ⟨phase, reaches⟩
  | succ beats induction =>
      rcases induction with ended | ⟨later, onward⟩
      · exact Or.inl ended
      · rcases onward.goes with ⟨outcome, ended⟩ | ⟨other, _, _, next⟩
        · exact Or.inl ⟨_, outcome, ended⟩
        · exact Or.inr ⟨other, next⟩

/-- An exchange whose drain has run dry gets on, or waits where it stands. -/
theorem Clocked.beat (clocked : course.Clocked command first start)
    {dry : Nat} (runsDry : course.DryFrom command first dry)
    (late : dry ≤ index)
    (reaches : course.Reaches command first index phase) :
    (∃ outcome, course.Completes command first index outcome) ∨
    ∃ later, course.Reaches command first (index + 1) later ∧
      (later.effort course.settings command.request <
          phase.effort course.settings command.request ∨
        later = phase ∧ (course.turn index).more = false ∧
          phase.leaves course.settings (course.beats (index + 1)).instant =
            phase.leaves course.settings (course.beats index).instant) := by
  rcases reaches.goes with ended | ⟨later, wire, goes, next⟩
  · exact Or.inl ended
  · refine Or.inr ⟨later, next, ?_⟩
    rcases clocked.driven.clock reaches.busy goes with
      ⟨step, _⟩ | ⟨rfl, still, deadline, waits, _⟩
    · left
      apply (moves_of_step step).effort_lt (clocked.paced reaches).timely
      rintro size deadline octets rfl ready
      rw [found_line] at ready
      exact runsDry index size deadline octets late reaches ready
    · exact Or.inr ⟨rfl, still, Exchange.Phase.leaves_of_waits _ _ waits⟩

private theorem Clocked.completes_from
    (clocked : course.Clocked command first start) {dry : Nat}
    (runsDry : course.DryFrom command first dry) (effort : Nat) :
    ∀ {index : Nat} {phase : Exchange.Phase},
      phase.effort course.settings command.request = effort →
      dry ≤ index → course.Reaches command first index phase →
        ∃ last outcome, course.Completes command first last outcome := by
  -- The outer induction is on the effort, which waits leave as it is; the
  -- inner one is on the beats up to one at which the phase cannot wait any
  -- more.
  induction effort using Nat.strongRecOn with
  | ind effort lower =>
      intro index phase same late reaches
      obtain ⟨target, behind, awake⟩ := clocked.driven.passes index
        (phase.leaves course.settings (course.beats index).instant + 1)
      obtain ⟨distance, rfl⟩ := Nat.exists_eq_add_of_le behind
      clear behind
      induction distance generalizing index with
      | zero =>
          have inTime := (clocked.paced reaches).timely.le_leaves
          rcases clocked.beat runsDry late reaches with
            ⟨outcome, ended⟩ | ⟨later, next, less | ⟨_, still, _⟩⟩
          · exact ⟨index, outcome, ended⟩
          · exact lower _ (same ▸ less) rfl (Nat.le_succ_of_le late) next
          · rcases awake with beyond | more
            · simp only [Nat.add_zero] at beyond
              omega
            · simp only [Nat.add_zero, still] at more
              cases more
      | succ distance nearer =>
          rcases clocked.beat runsDry late reaches with
            ⟨outcome, ended⟩ | ⟨later, next, less | ⟨rfl, _, leaves⟩⟩
          · exact ⟨index, outcome, ended⟩
          · exact lower _ (same ▸ less) rfl (Nat.le_succ_of_le late) next
          · apply nearer (Nat.le_succ_of_le late) next
            rw [leaves, Nat.succ_add_eq_add_succ]
            exact awake

theorem Clocked.completes (clocked : course.Clocked command first start)
    {dry : Nat} (runsDry : course.DryFrom command first dry) :
    ∃ last outcome, course.Completes command first last outcome := by
  have started : course.Reaches command first first start :=
    .begins start clocked.begun
  rcases started.onward dry with ended | ⟨later, onward⟩
  · exact ended
  · exact clocked.completes_from runsDry _ rfl (Nat.le_add_left dry first)
      onward

def discards (course : Course σ) (index : Nat) : Nat :=
  match (course.before index).worker.stage with
  | .busy _ (.discarding size _) =>
      match (course.line.read (course.beats index).instant size
          (course.before index).wire.line).value with
      | .ready (.ok octets) => octets.length
      | _ => 0
  | _ => 0

/-- The number of left-over octets that were read before a beat. -/
def discarded (course : Course σ) : Nat → Nat
  | 0 => 0
  | index + 1 => course.discarded index + course.discards index

theorem discarded_le (course : Course σ) {later : Nat}
    (behind : index ≤ later) :
    course.discarded index ≤ course.discarded later := by
  induction behind with
  | refl => exact Nat.le_refl _
  | step _ induction => exact Nat.le_trans induction (Nat.le_add_right _ _)

/-- A drain that has not run dry by a beat reads one octet more. -/
theorem discarded_lt_of_not_dry
    (wet : ¬course.DryFrom command first index) :
    ∃ later phase, course.Reaches command first later phase ∧
      course.discarded index < course.discarded (later + 1) := by
  simp only [DryFrom, not_forall] at wet
  obtain ⟨later, size, deadline, octets, behind, reaches, ready, more⟩ := wet
  have reads : course.discards later = octets.length := by
    simp [discards, reaches.busy, ready]
  have long := List.length_pos_iff.mpr more
  refine ⟨later, .discarding size deadline, reaches, ?_⟩
  calc
    course.discarded index ≤ course.discarded later :=
      course.discarded_le behind
    _ < course.discarded (later + 1) := by
      simp only [discarded, reads]
      omega

/-- A drain that is given so many octets at most runs dry. -/
theorem exists_dryFrom {most : Nat}
    (begun : (course.before first).worker.stage = .busy command start)
    (finite : ∀ index phase, course.Reaches command first index phase →
      course.discarded (index + 1) ≤ course.discarded first + most) :
    ∃ dry, course.DryFrom command first dry := by
  have fed : ∀ count, (∃ dry, course.DryFrom command first dry) ∨
      ∃ index phase, course.Reaches command first index phase ∧
        course.discarded first + count ≤ course.discarded (index + 1) := by
    intro count
    induction count with
    | zero =>
        exact Or.inr ⟨first, start, .begins start begun,
          course.discarded_le (Nat.le_succ first)⟩
    | succ count induction =>
        rcases induction with dry | ⟨index, phase, _, given⟩
        · exact Or.inl dry
        · by_cases dry : course.DryFrom command first (index + 1)
          · exact Or.inl ⟨_, dry⟩
          · obtain ⟨later, other, reaches, less⟩ :=
              discarded_lt_of_not_dry dry
            exact Or.inr ⟨later, other, reaches, by omega⟩
  rcases fed (most + 1) with dry | ⟨index, phase, reaches, given⟩
  · exact dry
  · have bound := finite index phase reaches
    omega

def polls (course : Course σ) (index : Nat) : Bool :=
  match (course.before index).worker.stage with
  | .busy _ phase => phase.polls
  | _ => false

def pollsBefore (course : Course σ) (index : Nat) : Nat :=
  Nat.count (fun beat => course.polls beat = true) index

theorem Reaches.polls
    (reaches : course.Reaches command first index phase) :
    course.polls index = phase.polls := by
  simp [Course.polls, reaches.busy]

theorem Reaches.pollsBefore_succ
    (reaches : course.Reaches command first index phase) :
    course.pollsBefore (index + 1) =
      course.pollsBefore index + if phase.polls then 1 else 0 := by
  simp [pollsBefore, Nat.count_succ, reaches.polls]

theorem polls_of_waits {deadline : Nat}
    (waits : phase.deadline? = some deadline) : phase.polls = false := by
  cases phase <;> first | rfl | cases waits

theorem Clocked.pollsBefore_le (clocked : course.Clocked command first start)
    (reaches : course.Reaches command first index phase) :
    course.pollsBefore index + phase.pollsLeft ≤
      course.pollsBefore first + start.pollsLeft := by
  induction reaches with
  | begins phase busy =>
      cases clocked.begun.symm.trans busy
      exact Nat.le_refl _
  | @goesOn index phase later wire reaches goes induction =>
      rw [reaches.pollsBefore_succ]
      rcases clocked.driven.clock reaches.busy goes with
        ⟨step, _⟩ | ⟨rfl, _, deadline, waits, _⟩
      · have used := (moves_of_step step).pollsLeft_le
          (clocked.paced reaches).timely
        omega
      · simpa [polls_of_waits waits] using induction

/-- A poll is over two ticks after it began, if the next one has not begun by
then. -/
theorem Clocked.pollEnds_le (clocked : course.Clocked command first start)
    (polling : start.polls = true)
    (reaches : course.Reaches command first index phase)
    (alone : ∀ between, first < between → between < index →
      course.polls between = false) :
    phase.part = .read ∧
      phase.pollEnds course.settings (course.beats index).instant ≤
        (course.beats first).instant + 2 * course.settings.tick := by
  induction reaches with
  | begins phase busy =>
      cases clocked.begun.symm.trans busy
      cases start with
      | polling reply idle => exact ⟨rfl, Nat.le_add_right _ _⟩
      | _ => cases polling
  | @goesOn index phase later wire reaches goes induction =>
      obtain ⟨reads, ends⟩ := induction fun between behind inside =>
        alone between behind (Nat.lt_succ_of_lt inside)
      rcases clocked.driven.clock reaches.busy goes with
        ⟨step, same⟩ | ⟨rfl, _, deadline, waits, _⟩
      · rw [same]
        obtain ⟨still, before⟩ := (moves_of_step step).pollEnds_le
          (clocked.paced reaches).timely reads
        refine ⟨still, ?_⟩
        rcases Nat.eq_or_lt_of_le reaches.le with rfl | behind
        · obtain rfl := reaches.unique (.begins start clocked.begun)
          rwa [if_pos polling] at before
        · rw [← reaches.polls, alone index behind (Nat.lt_succ_self index)]
            at before
          exact Nat.le_trans before ends
      · refine ⟨reads, ?_⟩
        rwa [Exchange.Phase.pollEnds_of_waits _ _ waits reads]

/-- An exchange always comes to its outcome, however its line answers, as long
as its drain is not fed for ever and a read of the drain brings octets at once
or not at all.  Each of its parts is over within its limit, every poll within
two ticks, and there are no more polls than ten for each octet of the longest
reply. -/
theorem exchange_ends (driven : course.Driven)
    (begun : (course.before first).worker.stage =
      .busy command Exchange.start)
    (atOnce : course.DrainsAtOnce command first) {most : Nat}
    (finite : ∀ index phase, course.Reaches command first index phase →
      course.discarded (index + 1) ≤ course.discarded first + most) :
    ∃ last outcome, course.Completes command first last outcome ∧
      (course.before (last + 1)).answers =
        (course.before first).answers ++
          [{ number := command.number
             outcome := outcome }] ∧
      (course.beats last).instant ≤ (course.beats first).instant +
        (2 * course.settings.wait + 5122 * course.settings.tick) ∧
      course.pollsBefore (last + 1) ≤ course.pollsBefore first + 2560 ∧
      ∀ index phase later other, course.Reaches command first index phase →
        course.Reaches command first later other → index ≤ later →
          (phase.part = other.part →
            (course.beats later).instant ≤ (course.beats index).instant +
              phase.part.limit course.settings) ∧
          (phase.polls = true →
            (∀ between, index < between → between < later →
              course.polls between = false) →
            (course.beats later).instant ≤
              (course.beats index).instant + 2 * course.settings.tick) := by
  have clocked : course.Clocked command first Exchange.start :=
    ⟨driven, begun, trivial, atOnce⟩
  obtain ⟨dry, runsDry⟩ := exists_dryFrom begun finite
  obtain ⟨last, outcome, completes⟩ := clocked.completes runsDry
  refine ⟨last, outcome, completes, completes.answers, ?_, ?_, ?_⟩
  · obtain ⟨phase, wire, reaches, _⟩ := completes
    have paced := clocked.paced reaches
    calc
      (course.beats last).instant
          ≤ phase.ends course.settings (course.beats last).instant :=
        Nat.le_trans paced.timely.le_leaves (Nat.le_add_right _ _)
      _ ≤ Exchange.start.ends course.settings (course.beats first).instant :=
        paced.ends
      _ = (course.beats first).instant +
          (2 * course.settings.wait + 5122 * course.settings.tick) := by
        simp [Exchange.start, Exchange.Phase.ends, Exchange.Phase.leaves,
          Exchange.Phase.part, Exchange.Part.rest, Exchange.Part.limit,
          Exchange.pollTime, Exchange.mostPolls, Exchange.replyLimit,
          Exchange.idlePolls]
        omega
  · obtain ⟨phase, wire, reaches, _⟩ := completes
    have fewer := clocked.pollsBefore_le reaches
    have left := phase.pollsLeft_of_polls
    rw [reaches.pollsBefore_succ]
    exact Nat.le_trans (by omega) fewer
  · intro index phase later other reaches further behind
    have onward := (further.since reaches.le behind).2
    have clocked := clocked.onward reaches
    constructor
    · intro same
      have paced := clocked.paced onward
      calc
        (course.beats later).instant
            ≤ other.leaves course.settings (course.beats later).instant :=
          paced.timely.le_leaves
        _ ≤ phase.leaves course.settings (course.beats index).instant :=
          paced.leaves same.symm
        _ ≤ (course.beats index).instant + phase.part.limit course.settings :=
          clocked.timely.leaves_le
    · intro polling alone
      exact Nat.le_trans (clocked.paced onward).timely.le_pollEnds
        (clocked.pollEnds_le polling onward alone).2

end Course

end Worker

/-- A line that asks for another try only at a later instant. -/
structure Line.AsksAhead (line : Line σ) : Prop where
  read : ∀ {now size : Nat} {state : σ} {wake : Nat},
    (line.read now size state).value = .pending (some wake) → now < wake
  write : ∀ {now : Nat} {octets : Bytes} {state : σ} {wake : Nat},
    (line.write now octets state).value = .pending (some wake) → now < wake
  flush : ∀ {now : Nat} {state : σ} {wake : Nat},
    (line.flush now state).value = .pending (some wake) → now < wake

theorem Exchange.lt_wakeBy {now deadline : Nat} {wake : Option Nat}
    (early : now < deadline) (ahead : ∀ instant, wake = some instant →
      now < instant) : now < wakeBy deadline wake := by
  cases wake with
  | none => exact early
  | some instant => exact Nat.lt_min.mpr ⟨ahead instant rfl, early⟩

theorem Exchange.Moves.lt_wake {settings : PortSettings} {line : Line σ}
    {now wake : Nat} {request : Bytes} {wire after : Wire σ}
    {phase later : Phase} (ahead : line.AsksAhead)
    (moves : Moves settings line now request wire phase
      (.wait later after wake)) : now < wake := by
  cases moves with
  | discardWaits size deadline wake early value =>
      apply lt_wakeBy early
      rintro instant rfl
      exact ahead.read value
  | writeWaits rest deadline wake more early value =>
      apply lt_wakeBy early
      rintro instant rfl
      exact ahead.write value
  | flushWaits deadline wake early value =>
      apply lt_wakeBy early
      rintro instant rfl
      exact ahead.flush value
  | dozes remaining wake early => exact early
  | readWaits reply idle size deadline wake early value =>
      apply lt_wakeBy early
      rintro instant rfl
      exact ahead.read value
  | rests reply idle wake early => exact early

namespace Worker

theorem step_wake (settings : PortSettings) (line : Line σ) (now : Nat)
    (worker : Worker) (wire : Wire σ) (ahead : line.AsksAhead)
    {wake : Nat}
    (asks : (worker.step settings line now wire).wake = some wake) :
    now < wake := by
  cases stage : worker.stage with
  | stopped => simp [step, stage] at asks
  | idle =>
      simp only [step, stage] at asks
      split at asks
      · cases asks
      · split at asks
        · cases asks
        · split at asks <;> cases asks
  | busy command phase =>
      have moves := Exchange.step_moves settings line now command.request phase
        wire
      simp only [step, stage] at asks
      generalize Exchange.step settings line now command.request phase wire =
        result at asks moves
      cases result with
      | next later after => cases asks
      | wait later after instant =>
          cases asks
          exact moves.lt_wake ahead
      | done outcome after => cases asks

namespace Course

/-- A worker that gets its next turn at once if there is more to do, and else
when it asked for one, or a millisecond later; with the instants of its
turns. -/
def left (settings : PortSettings) (line : Line σ) (worker : Worker)
    (wire : Wire σ) : Nat → Nat × Service σ
  | 0 =>
      (0,
        { worker := worker
          wire := wire
          answers := [] })
  | index + 1 =>
      let (now, service) := left settings line worker wire index
      let progress := service.worker.step settings line now service.wire
      (if progress.more then now else max now (progress.wake.getD (now + 1)),
        { worker := progress.worker
          wire := progress.wire
          answers := service.answers ++ progress.answers })

def alone (settings : PortSettings) (line : Line σ) (worker : Worker)
    (wire : Wire σ) : Course σ :=
  { settings := settings
    line := line
    worker := worker
    wire := wire
    beats := fun index =>
      { instant := (left settings line worker wire index).1
        events := [] } }

variable (settings : PortSettings) (line : Line σ) (worker : Worker)
  (wire : Wire σ)

theorem before_alone (index : Nat) :
    (alone settings line worker wire).before index =
      (left settings line worker wire index).2 := by
  induction index with
  | zero => rfl
  | succ index induction =>
      simp only [before, induction, left]
      rfl

theorem turn_alone (index : Nat) :
    (alone settings line worker wire).turn index =
      let (now, service) := left settings line worker wire index
      service.worker.step settings line now service.wire := by
  simp only [turn, found, before_alone]
  rfl

theorem instant_alone_succ (index : Nat) :
    let course := alone settings line worker wire
    (course.beats (index + 1)).instant =
      if (course.turn index).more then (course.beats index).instant
      else max (course.beats index).instant
        ((course.turn index).wake.getD
          ((course.beats index).instant + 1)) := by
  simp only [turn_alone]
  rfl

theorem lt_instant_alone (ahead : line.AsksAhead) (index : Nat)
    (still : ((alone settings line worker wire).turn index).more = false) :
    ((alone settings line worker wire).beats index).instant <
      ((alone settings line worker wire).beats (index + 1)).instant := by
  rw [instant_alone_succ, still, if_neg Bool.false_ne_true]
  apply Nat.lt_of_lt_of_le _ (Nat.le_max_right _ _)
  cases asks : ((alone settings line worker wire).turn index).wake with
  | none => exact Nat.lt_succ_self _
  | some wake => exact step_wake _ _ _ _ _ ahead asks

theorem driven_alone (ahead : line.AsksAhead) :
    (alone settings line worker wire).Driven := by
  have later := lt_instant_alone settings line worker wire ahead
  have next := instant_alone_succ settings line worker wire
  generalize alone settings line worker wire = course at later next
  constructor
  · intro index
    rw [next index]
    split
    · exact Nat.le_refl _
    · exact Nat.le_max_left _ _
  · intro index more
    rw [next index, if_pos more]
  · intro index wake asks
    rw [next index, asks]
    split
    · exact Nat.le_max_left _ _
    · exact Nat.le_refl _
  · intro index instant
    obtain ⟨distance, near⟩ : ∃ distance,
        instant ≤ (course.beats index).instant + distance :=
      ⟨instant, Nat.le_add_left _ _⟩
    induction distance generalizing index with
    | zero => exact ⟨index, Nat.le_refl index, Or.inl near⟩
    | succ distance nearer =>
        cases more : (course.turn index).more with
        | true => exact ⟨index, Nat.le_refl index, Or.inr more⟩
        | false =>
            have passes := later index more
            obtain ⟨target, behind, reached⟩ :=
              nearer (index + 1) (by omega)
            exact ⟨target, Nat.le_of_succ_le behind, reached⟩

end Course

end Worker

/-- A line that reports the same number of octets whenever it is asked, and
lets every read wait for ever. -/
def HollowLine (claimed : Nat) : Line Unit :=
  { available := fun _ line =>
      { value := .ok claimed
        line := line
        events := [] }
    read := fun _ _ line =>
      { value := .pending none
        line := line
        events := [] }
    write := fun _ octets line =>
      { value := .ready (.ok octets.length)
        line := line
        events := [] }
    flush := fun _ line =>
      { value := .ready (.ok ())
        line := line
        events := [] } }

namespace HollowLine

theorem asksAhead (claimed : Nat) : (HollowLine claimed).AsksAhead :=
  ⟨nofun, nofun, nofun⟩

def settings (wait : UInt64) : PortSettings :=
  { PortSettings.named "hollow" with responseWait := wait }

def command : Command :=
  { number := 1
    request := [1, 3, 0, 0, 0, 2, 196, 11] }

def course (claimed : Nat) (wait : UInt64) : Worker.Course Unit :=
  Worker.Course.alone (settings wait) (HollowLine claimed)
    { Worker.fresh with stage := .busy command Exchange.start }
    (Wire.fresh ())

theorem driven (claimed : Nat) (wait : UInt64) :
    (course claimed wait).Driven :=
  Worker.Course.driven_alone _ _ _ _ (asksAhead claimed)

theorem discarded (claimed : Nat) (wait : UInt64) (index : Nat) :
    (course claimed wait).discarded index = 0 := by
  induction index with
  | zero => rfl
  | succ index induction =>
      simp only [Worker.Course.discarded, induction, Worker.Course.discards]
      split <;> rfl

end HollowLine

open HollowLine in
/-- Nothing can be read of the octet that such a line reports, and the exchange
is over in time. -/
theorem Worker.Course.hollow_exchange_ends :
    ∃ last outcome,
      (course 1 2000).Completes command 0 last outcome ∧
      ((course 1 2000).beats last).instant ≤ 2 * 2000 + 5122 * 2 := by
  have begun : ((course 1 2000).before 0).worker.stage =
      .busy command Exchange.start := rfl
  have finite : ∀ index phase,
      (course 1 2000).Reaches command 0 index phase →
      (course 1 2000).discarded (index + 1) ≤
        (course 1 2000).discarded 0 + 0 :=
    fun _ _ _ => Nat.le_of_eq (HollowLine.discarded 1 2000 _)
  obtain ⟨last, outcome, completes, _, inTime, _⟩ :=
    exchange_ends (driven 1 2000) begun
      (fun _ _ _ _ _ _ ready => nomatch ready) finite
  have wait : (course 1 2000).settings.wait = 2000 := by decide
  have tick : (course 1 2000).settings.tick = 2 := by decide
  have begins : ((course 1 2000).beats 0).instant = 0 := rfl
  rw [wait, tick, begins, Nat.zero_add] at inTime
  exact ⟨last, outcome, completes, inTime⟩

end MeterLine
