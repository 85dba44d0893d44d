import MeterLine.Proofs.Port.Pace

/-!
# Silence

A line that stays silent after a request makes the worker count the response
wait down, a tick at a time, until less than nothing remains.  The count is a
signed one.  So a wait that can be counted is over at the first look behind it,
and one that cannot be counted leaves no time at all.
-/

namespace MeterLine

def PortEvent.announces : PortEvent → Bool
  | .dataAvailable now _ => now
  | .hardwareFault _ => false

/-- A line none of whose answers comes with word of data. -/
structure Line.Quiet (line : Line σ) : Prop where
  available : ∀ now state, ∀ event ∈ (line.available now state).events,
    event.announces = false
  read : ∀ now size state, ∀ event ∈ (line.read now size state).events,
    event.announces = false
  write : ∀ now octets state, ∀ event ∈ (line.write now octets state).events,
    event.announces = false
  flush : ∀ now state, ∀ event ∈ (line.flush now state).events,
    event.announces = false

namespace Wire

theorem ready_hear {wire : Wire σ} {event : PortEvent}
    (silent : event.announces = false) (unready : wire.ready = false) :
    (wire.hear event).ready = false := by
  unfold hear
  split
  · cases event with
    | dataAvailable now before => exact silent
    | hardwareFault message => exact unready
  · exact unready

theorem ready_foldl_hear {events : List PortEvent} {wire : Wire σ}
    (silent : ∀ event ∈ events, event.announces = false)
    (unready : wire.ready = false) :
    (events.foldl hear wire).ready = false := by
  induction events generalizing wire with
  | nil => exact unready
  | cons event events induction =>
      rw [List.foldl_cons]
      apply induction
      · intro other member
        exact silent other (List.mem_cons_of_mem event member)
      · exact ready_hear (silent event List.mem_cons_self) unready

theorem ready_take {wire : Wire σ} {answer : LineAnswer σ α}
    (silent : ∀ event ∈ answer.events, event.announces = false)
    (unready : wire.ready = false) : (wire.take answer).ready = false :=
  ready_foldl_hear silent unready

end Wire

namespace Exchange

variable {settings : PortSettings} {line : Line σ} {now next : Nat}
  {request : Bytes} {wire after : Wire σ} {phase later : Phase}

/-- The drain puts the flag down, and nothing but word of data or a look that
finds some raises it again. -/
theorem Moves.unready {result : Step σ} (quiet : line.Quiet)
    (moves : Moves settings line now request wire phase result)
    (goes : result.goesOn? = some (later, after))
    (unready : phase.drains = false → wire.ready = false)
    (empty : ∀ remaining, phase = .watching remaining →
      (line.available now wire.line).value = .ok 0)
    (past : later.drains = false) : after.ready = false := by
  have looks : wire.ready = false →
      (wire.take (line.available now wire.line)).ready = false :=
    Wire.ready_take (quiet.available now wire.line)
  have reads : ∀ size, wire.ready = false →
      (wire.take (line.read now size wire.line)).ready = false :=
    fun size => Wire.ready_take (quiet.read now size wire.line)
  have writes : ∀ octets, wire.ready = false →
      (wire.take (line.write now octets wire.line)).ready = false :=
    fun octets => Wire.ready_take (quiet.write now octets wire.line)
  have flushes : wire.ready = false →
      (wire.take (line.flush now wire.line)).ready = false :=
    Wire.ready_take (quiet.flush now wire.line)
  cases moves with
  | drainFinds => cases goes; cases past
  | discards => cases goes; cases past
  | discardWaits => cases goes; cases past
  | drainEnds => cases goes; rfl
  | discardGivesUp => cases goes; rfl
  | finds remaining count _ _ value =>
      rw [empty remaining rfl] at value
      cases value
  | _ =>
      cases goes
      all_goals
        have unready := unready rfl
        first
        | exact unready
        | exact looks unready
        | exact reads _ unready
        | exact writes _ unready
        | exact flushes unready

/-- The response wait is counted down by whole ticks since the instant
`flushed`. -/
inductive CountsDown (settings : PortSettings) (flushed now : Nat) :
    Phase → Prop where
  | watching (looks : Nat) :
      now = flushed + looks * settings.tick →
      (looks = 0 ∨
        (looks * settings.tick : Nat) ≤ watchTime settings + settings.tick) →
      CountsDown settings flushed now
        (.watching (watchTime settings - (looks * settings.tick : Nat)))
  | dozing (looks : Nat) :
      (looks * settings.tick : Nat) ≤ watchTime settings →
      now ≤ flushed + (looks + 1) * settings.tick →
      CountsDown settings flushed now
        (.dozing (watchTime settings - (looks * settings.tick : Nat))
          (flushed + (looks + 1) * settings.tick))

theorem CountsDown.start (settings : PortSettings) (now : Nat) :
    CountsDown settings now now (.watching (watchTime settings)) := by
  have first : CountsDown settings now now
      (.watching (watchTime settings - (0 * settings.tick : Nat))) :=
    .watching 0 (by simp) (Or.inl rfl)
  simpa using first

variable {flushed : Nat}

theorem CountsDown.part (counts : CountsDown settings flushed now phase) :
    phase.part = .watch := by
  cases counts <;> rfl

theorem CountsDown.wait {deadline : Nat}
    (counts : CountsDown settings flushed now phase)
    (waits : phase.deadline? = some deadline) (inTime : next ≤ deadline) :
    CountsDown settings flushed next phase := by
  cases counts with
  | watching => cases waits
  | dozing looks inside _ =>
      cases waits
      exact .dozing looks inside inTime

theorem CountsDown.goesOn (counts : CountsDown settings flushed now phase)
    (unready : wire.ready = false)
    (empty : ∀ remaining, phase = .watching remaining →
      (line.available now wire.line).value = .ok 0)
    (moves : Moves settings line now request wire phase (.next later after)) :
    CountsDown settings flushed now later := by
  cases counts with
  | watching looks since inTime =>
      cases moves with
      | hears _ ready =>
          rw [unready] at ready
          cases ready
      | finds _ count _ _ value =>
          rw [empty _ rfl] at value
          cases value
      | watches _ _ still _ =>
          have wake : now + settings.tick =
              flushed + (looks + 1) * settings.tick := by
            rw [Nat.succ_mul]
            omega
          rw [wake]
          exact .dozing looks (by omega) (by omega)
  | dozing looks inside early =>
      cases moves with
      | wakes _ _ awake =>
          have remains : watchTime settings - (looks * settings.tick : Nat) -
              settings.tick =
              watchTime settings - ((looks + 1) * settings.tick : Nat) := by
            rw [Nat.succ_mul]
            omega
          rw [remains]
          apply CountsDown.watching
          · omega
          · right
            rw [Nat.succ_mul]
            omega

/-- The exchange ends at the first look with no time left. -/
theorem CountsDown.done {outcome : Except Failure Bytes}
    (counts : CountsDown settings flushed now phase)
    (empty : ∀ remaining, phase = .watching remaining →
      (line.available now wire.line).value = .ok 0)
    (moves : Moves settings line now request wire phase
      (.done outcome after)) :
    outcome = .error (watchExpiry settings) ∧
      ∃ looks, now = flushed + looks * settings.tick ∧
        watchTime settings < (looks * settings.tick : Nat) ∧
        (looks = 0 ∨ (looks * settings.tick : Nat) ≤
          watchTime settings + settings.tick) := by
  cases counts with
  | watching looks since inTime =>
      cases moves with
      | watchExpires _ _ elapsed =>
          exact ⟨rfl, looks, since, by omega, inTime⟩
      | watchFails _ failure _ _ value =>
          rw [empty _ rfl] at value
          cases value
  | dozing => cases moves

end Exchange

namespace Worker.Course

variable {course : Course σ} {command : Command} {first sent index : Nat}
  {phase : Exchange.Phase}

/-- From a beat on, no event and no answer of the line says that data are
available. -/
structure Unannounced (course : Course σ) (first : Nat) : Prop where
  beats : ∀ index, first ≤ index → ∀ event ∈ (course.beats index).events,
    event.announces = false
  line : course.line.Quiet

theorem Unannounced.found (unannounced : course.Unannounced first)
    (behind : first ≤ index)
    (unready : (course.before index).wire.ready = false) :
    (course.found index).ready = false :=
  Wire.ready_foldl_hear (unannounced.beats index behind) unready

/-- Every look of the response wait finds nothing to read. -/
def FindsNothing (course : Course σ) (command : Command) (first : Nat) :
    Prop :=
  ∀ look remaining, course.Reaches command first look (.watching remaining) →
    (course.line.available (course.beats look).instant
      (course.before look).wire.line).value = .ok 0

theorem FindsNothing.empty (nothing : course.FindsNothing command first)
    (reaches : course.Reaches command first index phase) :
    ∀ remaining, phase = .watching remaining →
      (course.line.available (course.beats index).instant
        (course.found index).line).value = .ok 0 := by
  rintro remaining rfl
  rw [found_line]
  exact nothing index remaining reaches

/-- Nothing raises the flag once the drain has put it down. -/
theorem Unannounced.unready (unannounced : course.Unannounced first)
    (nothing : course.FindsNothing command first)
    (begun : (course.before first).worker.stage =
      .busy command Exchange.start)
    (reaches : course.Reaches command first index phase)
    (past : phase.drains = false) :
    (course.before index).wire.ready = false := by
  induction reaches with
  | begins phase busy =>
      cases begun.symm.trans busy
      cases past
  | @goesOn index phase later wire reaches goes induction =>
      rw [(before_of_goesOn reaches.busy goes).2.1]
      apply (moves_of_step rfl).unready unannounced.line goes _
        (nothing.empty reaches) past
      intro past
      exact unannounced.found reaches.le (induction past)

theorem Reaches.countsDown (driven : course.Driven)
    (unready : ∀ index phase, course.Reaches command first index phase →
      phase.part = .watch → (course.found index).ready = false)
    (nothing : course.FindsNothing command first)
    (begun : (course.before first).worker.stage =
      .busy command (.watching (Exchange.watchTime course.settings)))
    (reaches : course.Reaches command first index phase) :
    Exchange.CountsDown course.settings (course.beats first).instant
      (course.beats index).instant phase := by
  induction reaches with
  | begins phase busy =>
      cases begun.symm.trans busy
      exact .start course.settings _
  | @goesOn index phase later wire reaches goes counts =>
      rcases driven.clock reaches.busy goes with
        ⟨step, same⟩ | ⟨rfl, _, deadline, waits, inTime⟩
      · rw [same]
        exact counts.goesOn (unready index phase reaches counts.part)
          (nothing.empty reaches) (moves_of_step step)
      · exact counts.wait waits inTime

/-- A count that is over is over at the first look behind its end. -/
theorem counted_down {settings : PortSettings} {looks : Nat}
    (elapsed : Exchange.watchTime settings < (looks * settings.tick : Nat))
    (inTime : looks = 0 ∨ (looks * settings.tick : Nat) ≤
      Exchange.watchTime settings + settings.tick) :
    (settings.wait < 2 ^ 63 → settings.wait < looks * settings.tick ∧
      looks * settings.tick ≤ settings.wait + settings.tick) ∧
    (2 ^ 63 ≤ settings.wait → looks = 0) := by
  have range : settings.wait < 2 ^ 64 := settings.responseWait.toNat_lt
  unfold Exchange.watchTime at elapsed inTime
  constructor
  · intro short
    rw [if_pos (by omega)] at elapsed inTime
    rcases inTime with rfl | inTime <;> omega
  · intro long
    rw [if_neg (by omega)] at elapsed inTime
    rcases inTime with none | inTime
    · exact none
    · cases looks with
      | zero => rfl
      | succ looks =>
          rw [Nat.succ_mul] at inTime
          omega

/-- A command whose request was written, and nothing is heard of after it,
fails with the response wait as the time it took.  That is so at the first look
behind the response wait, and so not later than a tick, if the wait is below
`2 ^ 63` milliseconds.  A longer wait is not kept at all. -/
theorem silence_expires (driven : course.Driven)
    (begun : (course.before first).worker.stage =
      .busy command Exchange.start)
    {deadline : Nat}
    (written : course.Reaches command first sent (.flushing deadline))
    (flushed : (course.line.flush (course.beats sent).instant
      (course.before sent).wire.line).value = .ready (.ok ()))
    (unannounced : course.Unannounced first)
    (nothing : course.FindsNothing command first) :
    ∃ last,
      course.Completes command first last
        (.error (.timeout
          (course.settings.name ++ " - did not receive any data")
          course.settings.wait)) ∧
      (course.before (last + 1)).answers =
        (course.before first).answers ++
          [{ number := command.number
             outcome := .error (.timeout
               (course.settings.name ++ " - did not receive any data")
               course.settings.wait) }] ∧
      (course.settings.wait < 2 ^ 63 →
        (course.beats sent).instant + course.settings.wait <
            (course.beats last).instant ∧
          (course.beats last).instant ≤ (course.beats sent).instant +
            course.settings.wait + course.settings.tick) ∧
      (2 ^ 63 ≤ course.settings.wait →
        (course.beats last).instant = (course.beats sent).instant) := by
  have sends : (course.stepAt command (.flushing deadline) sent).goesOn? =
      some (.watching (Exchange.watchTime course.settings),
        ((course.found sent).take
          (course.line.flush (course.beats sent).instant
            (course.found sent).line)).sent command.request.length) := by
    simp [stepAt, Exchange.step, Exchange.flush, flushed,
      Exchange.Step.goesOn?]
  have watches := written.goesOn _ _ sends
  have busy := watches.busy
  have same : (course.beats (sent + 1)).instant =
      (course.beats sent).instant := by
    rcases driven.clock written.busy sends with ⟨_, same⟩ | ⟨other, _⟩
    · exact same
    · cases other
  -- No part of the exchange that is behind the request drains any more.
  have past : ∀ index size deadline,
      ¬course.Reaches command (sent + 1) index
        (.discarding size deadline) := by
    intro index size deadline reaches
    exact Nat.not_succ_le_zero _ (reaches.order_le busy)
  have clocked : course.Clocked command (sent + 1)
      (.watching (Exchange.watchTime course.settings)) := by
    constructor
    · exact driven
    · exact busy
    · exact Exchange.watchTime_le course.settings
    · intro index size deadline octets reaches
      exact (past index size deadline reaches).elim
  have dry : course.DryFrom command (sent + 1) 0 := by
    intro index size deadline octets _ reaches
    exact (past index size deadline reaches).elim
  obtain ⟨last, outcome, phase, wire, reaches, done⟩ := clocked.completes dry
  have nothing' : course.FindsNothing command (sent + 1) :=
    fun look remaining onward => nothing look remaining (watches.trans onward)
  have counts := reaches.countsDown driven
    (fun index phase onward watching => by
      have onward := watches.trans onward
      apply unannounced.found onward.le
      apply unannounced.unready nothing begun onward
      cases phase <;> first | rfl | cases watching)
    nothing' busy
  obtain ⟨rfl, looks, now, elapsed, inTime⟩ := counts.done
    (nothing'.empty reaches) (moves_of_step done)
  obtain ⟨short, long⟩ := counted_down elapsed inTime
  rw [same] at now
  have completes : course.Completes command first last _ :=
    ⟨phase, wire, watches.trans reaches, done⟩
  refine ⟨last, completes, completes.answers, ?_, ?_⟩
  · intro within
    have bounds := short within
    omega
  · intro beyond
    rw [now, long beyond, Nat.zero_mul, Nat.add_zero]

end Worker.Course

namespace HollowLine

open Worker.Course

theorem unannounced (wait : UInt64) : (course 0 wait).Unannounced 0 :=
  ⟨fun _ _ => nofun, ⟨fun _ _ => nofun, fun _ _ _ => nofun, fun _ _ _ => nofun,
    fun _ _ => nofun⟩⟩

theorem findsNothing (wait : UInt64) :
    (course 0 wait).FindsNothing command 0 :=
  fun _ _ _ => rfl

theorem written (wait : UInt64) :
    (course 0 wait).Reaches command 0 3
      (.flushing (0 + (settings wait).wait)) :=
  .goesOn _ _ (.goesOn _ _ (.goesOn _ _ (.begins _ rfl) rfl) rfl) rfl

end HollowLine

open HollowLine

/-- A wait that is not a whole number of ticks is over at the tick behind
it. -/
theorem Worker.Course.odd_wait_expires :
    ∃ last, (course 0 41).Completes command 0 last
        (.error (.timeout ("hollow" ++ " - did not receive any data") 41)) ∧
      41 < ((course 0 41).beats last).instant ∧
      ((course 0 41).beats last).instant ≤ 41 + 2 := by
  obtain ⟨last, completes, _, short, _⟩ :=
    silence_expires (driven 0 41) rfl (written 41) rfl (unannounced 41)
      (findsNothing 41)
  have written : ((course 0 41).beats 3).instant = 0 := by decide +kernel
  have wait : (course 0 41).settings.wait = 41 := by decide
  have tick : (course 0 41).settings.tick = 2 := by decide
  rw [wait] at completes
  rw [written, wait, tick, Nat.zero_add] at short
  exact ⟨last, completes, short (by decide)⟩

/-- A valid wait of `2 ^ 63` milliseconds is over when it begins. -/
theorem Worker.Course.long_wait_expires_at_once :
    let course := course 0 0x8000000000000000
    course.settings.validate = .ok () ∧ course.Driven ∧
      (course.before 0).worker.stage = .busy command Exchange.start ∧
      course.Reaches command 0 3 (.flushing (0 + course.settings.wait)) ∧
      (course.line.flush (course.beats 3).instant
        (course.before 3).wire.line).value = .ready (.ok ()) ∧
      course.Unannounced 0 ∧ course.FindsNothing command 0 ∧
      ∃ last, course.Completes command 0 last
          (.error (Exchange.watchExpiry course.settings)) ∧
        ¬(course.beats 3).instant + course.settings.wait <
          (course.beats last).instant := by
  refine ⟨rfl, driven 0 _, rfl, written _, rfl, unannounced _,
    findsNothing _, 4, ?_, by decide +kernel⟩
  exact ⟨_, _, (written _).goesOn _ _ rfl, rfl⟩

end MeterLine
