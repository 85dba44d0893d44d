import Mathlib.Algebra.Group.Nat.Defs
import MeterLine.Proofs.Sharing.Metered

/-!
# An exchange with a meter

An exchange on a line with meters comes to one of two ends.  A meter that
answers is heard: its reply is complete before the last look, every read brings
some of it, and ten looks that bring nothing come only after all of it.  A meter
that stays silent is waited for until the last look, and nothing else is ever
read.  In both cases nothing is left on its way to the next exchange.
-/

namespace MeterLine

/-- A read of a register that a port was asked for at an instant. -/
structure Booking where
  device : UInt8
  register : Register
  since : Nat

namespace Booking

def frame (entry : Booking) : Bytes :=
  Request.frame entry.device entry.register

/-- What the exchange of a booking comes to: the reply of its meter, or an
expiry because its meter is silent. -/
def Served (settings : PortSettings) (meters : Meters) (entry : Booking)
    (now : Nat) (outcome : Except Failure Bytes) : Prop :=
  ∃ flushed, entry.since ≤ flushed ∧ flushed ≤ now ∧
    ((meters.data flushed entry.device entry.register = none ∧
        outcome = .error (Exchange.watchExpiry settings)) ∨
      ∃ data, meters.data flushed entry.device entry.register = some data ∧
        outcome = .ok (replyFrame entry.device data))

theorem Served.later {settings : PortSettings} {meters : Meters}
    {entry : Booking} {now next : Nat} {outcome : Except Failure Bytes}
    (served : entry.Served settings meters now outcome)
    (passes : now ≤ next) : entry.Served settings meters next outcome := by
  obtain ⟨flushed, since, past, answer⟩ := served
  exact ⟨flushed, since, Nat.le_trans past passes, answer⟩

/-- The request was flushed, and its meter answers with data. -/
structure Asked (meters : Meters) (entry : Booking) (now flushed : Nat)
    (data : Bytes) (view : LineView) : Prop where
  since : entry.since ≤ flushed
  past : flushed ≤ now
  taken : view.taken = []
  answer : meters.data flushed entry.device entry.register = some data

/-- The watch for a reply: so many looks were taken since the request was
flushed, and the next one is taken at `time` or later. -/
structure Watched (settings : PortSettings) (meters : Meters)
    (entry : Booking) (now flushed looks time : Nat) (remaining : Int)
    (view : LineView) (ready : Bool) : Prop where
  since : entry.since ≤ flushed
  past : flushed ≤ now
  taken : view.taken = []
  reached : flushed + looks * settings.tick ≤ time
  left : remaining = (settings.wait : Int) - (looks * settings.tick : Nat)
  reply :
    (meters.data flushed entry.device entry.register = none ∧
      view.Quiet now ∧ view.buffer = [] ∧ ready = false) ∨
    ∃ data instant,
      meters.data flushed entry.device entry.register = some data ∧
        instant ≤ flushed + settings.lastLook ∧
        looks ≤ settings.wait / settings.tick ∧
        view.Awaits now instant (replyFrame entry.device data) ready

variable {settings : PortSettings} {meters : Meters} {entry : Booking}
  {now next flushed looks time : Nat} {remaining : Int} {view : LineView}
  {ready : Bool}

theorem Asked.later {data : Bytes}
    (asked : entry.Asked meters now flushed data view)
    (passes : now ≤ next) : entry.Asked meters next flushed data view :=
  { asked with past := Nat.le_trans asked.past passes }

theorem Watched.later (watched : entry.Watched settings meters now flushed
      looks time remaining view ready) (passes : now ≤ next)
    {after : Nat} (reached : time ≤ after) :
    entry.Watched settings meters next flushed looks after remaining view
      ready :=
  { watched with
    past := Nat.le_trans watched.past passes
    reached := Nat.le_trans watched.reached reached
    reply := by
      rcases watched.reply with
        ⟨answer, quiet, rest⟩ |
          ⟨data, instant, answer, timely, bound, awaits⟩
      · exact Or.inl ⟨answer, quiet.later passes, rest⟩
      · exact Or.inr
          ⟨data, instant, answer, timely, bound, awaits.later passes⟩ }

theorem Watched.room (watched : entry.Watched settings meters now flushed
      looks now remaining view ready) {instant : Nat}
    (early : now < instant)
    (timely : instant ≤ flushed + settings.lastLook) :
    looks + 1 ≤ settings.wait / settings.tick := by
  have reached := watched.reached
  have less : looks * settings.tick <
      settings.wait / settings.tick * settings.tick := by
    unfold PortSettings.lastLook at timely
    omega
  exact Nat.lt_of_mul_lt_mul_right less

/-- Time does not run out before a reply has been looked for at its latest
instant. -/
theorem Watched.patient (watched : entry.Watched settings meters now flushed
      looks time remaining view ready)
    (bound : looks ≤ settings.wait / settings.tick) : 0 ≤ remaining := by
  have left := watched.left
  have room : looks * settings.tick ≤ settings.wait :=
    Nat.le_trans (Nat.mul_le_mul_right _ bound) (Nat.div_mul_le_self _ _)
  omega

/-- A look that finds nothing changes nothing until the next one. -/
theorem Watched.again (watched : entry.Watched settings meters now flushed
      looks now remaining view ready)
    (nothing : (view.seen now).buffer = []) :
    view.seen now = view ∧
      (∀ instant, view.arrival = some instant → instant < now) ∧
      entry.Watched settings meters now flushed (looks + 1)
        (now + settings.tick) (remaining - (settings.tick : Int)) view
        ready := by
  have next : ∀ reply,
      entry.Watched settings meters now flushed (looks + 1)
        (now + settings.tick) (remaining - (settings.tick : Int)) view
        ready := fun reply =>
    { watched with
      reached := by
        have reached := watched.reached
        rw [Nat.succ_mul]
        omega
      left := by
        have left := watched.left
        rw [Nat.succ_mul]
        omega
      reply := reply }
  rcases watched.reply with
    ⟨answer, quiet, rest⟩ | ⟨data, instant, answer, timely, _, awaits⟩
  · exact ⟨quiet.seen now, quiet.past, next (Or.inl ⟨answer, quiet, rest⟩)⟩
  · rcases awaits.seen with gathers | ⟨early, still, expects⟩
    · have whole := gathers.split
      rw [nothing] at whole
      cases whole
    · have more := watched.room early timely
      exact ⟨still, expects.past, next
        (Or.inr ⟨data, instant, answer, timely, more, awaits⟩)⟩

/-- An announcement does not disturb the watch: it is made only at the instant
of an arrival. -/
theorem Watched.announced (watched : entry.Watched settings meters now
      flushed looks time remaining view ready)
    (arrived : (view.seen now).arrival = some now) (raised : Bool) :
    entry.Watched settings meters now flushed looks time remaining view
      raised :=
  { watched with
    reply := by
      rcases watched.reply with
        ⟨_, quiet, _⟩ | ⟨data, instant, answer, timely, bound, awaits⟩
      · rw [quiet.seen] at arrived
        exact (Nat.lt_irrefl now (quiet.past now arrived)).elim
      · refine Or.inr ⟨data, instant, answer, timely, bound, ?_⟩
        rcases awaits with expects | gathers
        · by_cases due : instant ≤ now
          · left
            exact
              { coming := expects.coming
                buffer := expects.buffer
                past := expects.past
                due := fun _ => due }
          · have early : now < instant := Nat.lt_of_not_le due
            rw [expects.seen_early early] at arrived
            exact (Nat.lt_irrefl now (expects.past now arrived)).elim
        · exact Or.inr gathers }

end Booking

namespace Exchange

/-- Where the exchange of a booking stands with the line and the flag. -/
def Phase.Stands (settings : PortSettings) (meters : Meters)
    (entry : Booking) (now : Nat) (view : LineView) (ready : Bool) :
    Phase → Prop
  | .draining => view.taken = [] ∧ view.Quiet now
  | .discarding size _ =>
      view.taken = [] ∧ view.Quiet now ∧ 0 < size ∧ view.buffer ≠ []
  | .writing rest _ =>
      view.taken ++ rest = entry.frame ∧ view.Quiet now ∧
        view.buffer = [] ∧ ready = false
  | .flushing _ =>
      view.taken = entry.frame ∧ view.Quiet now ∧ view.buffer = [] ∧
        ready = false
  | .watching remaining => ∃ flushed looks,
      entry.Watched settings meters now flushed looks now remaining view ready
  | .dozing remaining wake => ∃ flushed looks,
      entry.Watched settings meters now flushed looks wake
        (remaining - (settings.tick : Int)) view ready
  | .polling reply idle => ∃ flushed data instant,
      entry.Asked meters now flushed data view ∧
        ((reply = [] ∧ idle = idlePolls ∧
            view.Expects now instant (replyFrame entry.device data) true) ∨
          (view.Gathers now instant (replyFrame entry.device data) reply ∧
            (idle = idlePolls ∨ (view.buffer = [] ∧ instant < now))))
  | .reading reply idle size _ => ∃ flushed data instant,
      entry.Asked meters now flushed data view ∧
        view.Gathers now instant (replyFrame entry.device data) reply ∧
        idle = idlePolls ∧ view.buffer ≠ [] ∧ 0 < size
  | .resting reply idle wake => ∃ flushed data instant,
      entry.Asked meters now flushed data view ∧
        view.Gathers now instant (replyFrame entry.device data) reply ∧
        instant < wake ∧ (idle = idlePolls ∨ view.buffer = [])

/-- A step keeps where an exchange stands, or comes to an end that serves its
booking and leaves nothing on its way. -/
def Step.Serves (settings : PortSettings) (meters : Meters)
    (shows : σ → LineView) (entry : Booking) (now : Nat) : Step σ → Prop
  | .next phase wire =>
      wire.Listens ∧
        phase.Stands settings meters entry now (shows wire.line) wire.ready
  | .wait phase wire _ =>
      wire.Listens ∧
        phase.Stands settings meters entry now (shows wire.line) wire.ready
  | .done outcome wire =>
      wire.Listens ∧ entry.Served settings meters now outcome ∧
        (shows wire.line).taken = [] ∧ (shows wire.line).Quiet now

variable {settings : PortSettings} {meters : Meters} {line : Line σ}
  {shows : σ → LineView} {entry : Booking} {now : Nat} {wire : Wire σ}
  {result : Step σ}

theorem drain_serves (metered : line.Metered settings meters shows)
    (listens : wire.Listens)
    (stands : Phase.Stands settings meters entry now (shows wire.line)
      wire.ready .draining)
    (moves : Moves settings line now entry.frame wire .draining result) :
    result.Serves settings meters shows entry now := by
  obtain ⟨taken, quiet⟩ := stands
  obtain ⟨count, value, empty, shown⟩ := metered.looks now wire.line
  have heard := listens.take (metered.lookEvents now wire.line)
  rw [quiet.seen] at empty shown
  cases moves with
  | drainFails failure failed =>
      rw [value] at failed
      cases failed
  | drainEnds nothing =>
      rw [value] at nothing
      cases nothing
      refine ⟨⟨heard.listening, heard.faultless⟩, ?_⟩
      rw [Wire.clear_line, Wire.take_line, shown]
      refine ⟨?_, quiet, empty.mp rfl, rfl⟩
      rw [taken, List.nil_append]
  | drainFinds more found =>
      rw [value] at found
      cases found
      refine ⟨heard, ?_⟩
      rw [Wire.take_line, shown]
      refine ⟨taken, quiet, ?_, ?_⟩
      · simp only [chunkSize]
        omega
      · intro nothing
        exact Nat.succ_ne_zero more (empty.mpr nothing)

theorem discard_serves (metered : line.Metered settings meters shows)
    (listens : wire.Listens) {size deadline : Nat}
    (stands : Phase.Stands settings meters entry now (shows wire.line)
      wire.ready (.discarding size deadline))
    (moves : Moves settings line now entry.frame wire
      (.discarding size deadline) result) :
    result.Serves settings meters shows entry now := by
  obtain ⟨taken, quiet, positive, unread⟩ := stands
  have heard := listens.take (metered.readEvents now size wire.line)
  have reads := metered.reads now size wire.line positive
  rw [quiet.seen] at reads
  obtain ⟨octets, rest, some_, _, value, shown⟩ := reads unread
  cases moves with
  | discardFails _ _ fault failed =>
      rw [value] at failed
      cases failed
  | discardGivesUp _ _ fruitless =>
      rcases fruitless with nothing | ⟨_, wake, pending⟩
      · rw [value] at nothing
        cases nothing
        exact (some_ rfl).elim
      · rw [value] at pending
        cases pending
  | discards _ _ other _ ready =>
      refine ⟨heard, ?_⟩
      rw [Wire.take_line, shown]
      exact ⟨taken, quiet.coming, quiet.past⟩
  | discardWaits _ _ wake _ pending =>
      rw [value] at pending
      cases pending

theorem write_serves (metered : line.Metered settings meters shows)
    (listens : wire.Listens) {rest : Bytes} {deadline : Nat}
    (stands : Phase.Stands settings meters entry now (shows wire.line)
      wire.ready (.writing rest deadline))
    (moves : Moves settings line now entry.frame wire
      (.writing rest deadline) result) :
    result.Serves settings meters shows entry now := by
  obtain ⟨whole, quiet, empty, silent⟩ := stands
  have wrote := metered.writes now rest wire.line
  rw [quiet.seen] at wrote
  cases moves with
  | written =>
      refine ⟨listens, ?_, quiet, empty, silent⟩
      rw [← whole, List.append_nil]
  | writeFails _ _ fault more failed =>
      obtain ⟨count, _, value, _⟩ := wrote more
      rw [value] at failed
      cases failed
  | writesNothing _ _ more nothing =>
      obtain ⟨count, _, value, _⟩ := wrote more
      rw [value] at nothing
      cases nothing
  | writes _ _ count more written =>
      obtain ⟨other, _, value, shown⟩ := wrote more
      rw [value] at written
      cases written
      have still : (shows (line.write now rest wire.line).line).Quiet now := by
        rw [shown]
        exact ⟨quiet.coming, quiet.past⟩
      have events := still.events (metered.writeEvents now rest wire.line)
      rw [Wire.take_of_quiet wire events]
      refine ⟨⟨listens.listening, listens.faultless⟩, ?_, still, ?_, silent⟩
      · rw [shown]
        simpa using whole
      · rw [shown]
        exact empty
  | writeExpires _ _ wake more _ pending =>
      obtain ⟨count, _, value, _⟩ := wrote more
      rw [value] at pending
      cases pending
  | writeWaits _ _ wake more _ pending =>
      obtain ⟨count, _, value, _⟩ := wrote more
      rw [value] at pending
      cases pending

private theorem silence_watched (metered : line.Metered settings meters shows)
    (booked : entry.since ≤ now)
    (whole : (shows wire.line).taken = entry.frame)
    (quiet : (shows wire.line).Quiet now)
    (empty : (shows wire.line).buffer = []) (silent : wire.ready = false)
    (answer : meters.data now entry.device entry.register = none) :
    entry.Watched settings meters now now 0 now settings.wait
      (shows (line.flush now wire.line).line)
      (wire.take (line.flush now wire.line)).ready := by
  have shown := metered.silences now wire.line entry.device entry.register
    whole quiet.coming answer
  have still : (shows (line.flush now wire.line).line).Quiet now := by
    rw [shown]
    exact ⟨quiet.coming, quiet.past⟩
  have events := still.events (metered.flushEvents now wire.line)
  have unread : (shows (line.flush now wire.line).line).buffer = [] := by
    rw [shown]
    exact empty
  rw [Wire.take_of_quiet wire events]
  constructor
  · exact booked
  · exact Nat.le_refl now
  · rw [shown]
  · omega
  · simp
  · exact Or.inl ⟨answer, still, unread, silent⟩

/-- A meter that answers has its reply arrive before the last look. -/
private theorem reply_watched (metered : line.Metered settings meters shows)
    (booked : entry.since ≤ now)
    (whole : (shows wire.line).taken = entry.frame)
    (quiet : (shows wire.line).Quiet now)
    (empty : (shows wire.line).buffer = []) (silent : wire.ready = false)
    {data : Bytes}
    (answer : meters.data now entry.device entry.register = some data) :
    entry.Watched settings meters now now 0 now settings.wait
      (shows (line.flush now wire.line).line)
      (wire.take (line.flush now wire.line)).ready := by
  obtain ⟨instant, later, timely, shown⟩ :=
    metered.answers now wire.line entry.device entry.register data whole
      quiet.coming answer
  have announces := metered.flushEvents now wire.line
  have expects : LineView.Expects
      { shows wire.line with
        taken := []
        coming := some (instant, replyFrame entry.device data) }
      now instant (replyFrame entry.device data) false :=
    { coming := rfl
      buffer := empty
      past := quiet.past
      due := by
        intro raised
        cases raised }
  constructor
  · exact booked
  · exact Nat.le_refl now
  · rw [shown, LineView.seen_taken]
  · omega
  · simp
  · refine Or.inr ⟨data, instant, answer, timely, Nat.zero_le _, ?_⟩
    rcases LineView.Awaits.seen (Or.inl expects) with
      gathers | ⟨early, same, _⟩
    · rw [shown]
      exact Or.inr gathers
    · rw [shown, same] at announces
      have events : (line.flush now wire.line).events = [] :=
        LineView.events_of_past quiet.past announces
      rw [Wire.take_of_quiet wire events, shown, same]
      left
      rw [← silent] at expects
      exact expects

theorem flush_serves (metered : line.Metered settings meters shows)
    (short : settings.wait < 2 ^ 63) (booked : entry.since ≤ now)
    (listens : wire.Listens) {deadline : Nat}
    (stands : Phase.Stands settings meters entry now (shows wire.line)
      wire.ready (.flushing deadline))
    (moves : Moves settings line now entry.frame wire (.flushing deadline)
      result) :
    result.Serves settings meters shows entry now := by
  obtain ⟨whole, quiet, empty, silent⟩ := stands
  have value := metered.flushes now wire.line
  have heard := listens.take (metered.flushEvents now wire.line)
  have time : watchTime settings = (settings.wait : Int) := by
    have small : settings.wait < 0x8000000000000000 := short
    simp [watchTime, small]
  cases moves with
  | flushFails _ fault failed =>
      rw [value] at failed
      cases failed
  | flushExpires _ wake _ pending =>
      rw [value] at pending
      cases pending
  | flushWaits _ wake _ pending =>
      rw [value] at pending
      cases pending
  | flushes =>
      refine ⟨⟨heard.listening, heard.faultless⟩, now, 0, ?_⟩
      rw [time, Wire.sent_line, Wire.take_line]
      cases answer : meters.data now entry.device entry.register with
      | none =>
          exact silence_watched metered booked whole quiet empty silent answer
      | some data =>
          exact reply_watched metered booked whole quiet empty silent answer

theorem watch_serves (metered : line.Metered settings meters shows)
    (listens : wire.Listens) {remaining : Int}
    (stands : Phase.Stands settings meters entry now (shows wire.line)
      wire.ready (.watching remaining))
    (moves : Moves settings line now entry.frame wire (.watching remaining)
      result) :
    result.Serves settings meters shows entry now := by
  obtain ⟨flushed, looks, watched⟩ := stands
  obtain ⟨count, value, empty, shown⟩ := metered.looks now wire.line
  have announces := metered.lookEvents now wire.line
  have heard := listens.take announces
  rw [shown] at announces
  cases moves with
  | hears _ ready =>
      rcases watched.reply with
        ⟨_, _, _, silent⟩ | ⟨data, instant, answer, _, _, awaits⟩
      · rw [ready] at silent
        cases silent
      · refine ⟨listens, flushed, data, instant, ?_, ?_⟩
        · exact
            { since := watched.since
              past := watched.past
              taken := watched.taken
              answer := answer }
        · rcases awaits with expects | gathers
          · rw [ready] at expects
            exact Or.inl ⟨rfl, rfl, expects⟩
          · exact Or.inr ⟨gathers, Or.inl rfl⟩
  | watchExpires _ silent late =>
      rcases watched.reply with
        ⟨answer, quiet, _, _⟩ | ⟨_, _, _, _, bound, _⟩
      · refine ⟨⟨listens.listening, listens.faultless⟩, ?_, watched.taken,
          quiet⟩
        exact ⟨flushed, watched.since, watched.past, Or.inl ⟨answer, rfl⟩⟩
      · have patient := watched.patient bound
        omega
  | watchFails _ failure _ _ failed =>
      rw [value] at failed
      cases failed
  | watches _ silent _ nothing =>
      rw [value] at nothing
      cases nothing
      obtain ⟨still, past, again⟩ := watched.again (empty.mp rfl)
      rw [still] at announces shown
      have events := LineView.events_of_past past announces
      refine ⟨heard, flushed, looks + 1, ?_⟩
      rw [Wire.take_of_quiet wire events, shown]
      exact again
  | finds _ more silent _ found =>
      rw [value] at found
      cases found
      have unread : ((shows wire.line).seen now).buffer ≠ [] := by
        intro nothing
        exact Nat.succ_ne_zero more (empty.mpr nothing)
      rcases watched.reply with
        ⟨_, quiet, nothing, _⟩ | ⟨data, instant, answer, _, _, awaits⟩
      · rw [quiet.seen] at unread
        exact (unread nothing).elim
      · rcases awaits.seen with gathers | ⟨_, still, expects⟩
        · refine ⟨⟨heard.listening, heard.faultless⟩, flushed, data, instant,
            ?_, ?_⟩
          · rw [Wire.take_line, shown]
            exact
              { since := watched.since
                past := watched.past
                taken := by rw [LineView.seen_taken, watched.taken]
                answer := answer }
          · right
            rw [Wire.take_line, shown]
            exact ⟨gathers, Or.inl rfl⟩
        · rw [still] at unread
          exact (unread expects.buffer).elim

theorem doze_serves (listens : wire.Listens) {remaining : Int} {wake : Nat}
    (stands : Phase.Stands settings meters entry now (shows wire.line)
      wire.ready (.dozing remaining wake))
    (moves : Moves settings line now entry.frame wire
      (.dozing remaining wake) result) :
    result.Serves settings meters shows entry now := by
  cases moves with
  | dozes => exact ⟨listens, stands⟩
  | wakes _ _ due =>
      obtain ⟨flushed, looks, watched⟩ := stands
      refine ⟨listens, flushed, looks, ?_⟩
      exact
        { watched with reached := Nat.le_trans watched.reached due }

theorem poll_serves (metered : line.Metered settings meters shows)
    (listens : wire.Listens) {reply : Bytes} {idle : Nat}
    (stands : Phase.Stands settings meters entry now (shows wire.line)
      wire.ready (.polling reply idle))
    (moves : Moves settings line now entry.frame wire (.polling reply idle)
      result) :
    result.Serves settings meters shows entry now := by
  obtain ⟨flushed, data, instant, asked, reading⟩ := stands
  obtain ⟨count, value, empty, shown⟩ := metered.looks now wire.line
  have heard := listens.take (metered.lookEvents now wire.line)
  have long := length_replyFrame entry.device
    (meters.whole asked.answer)
  have asked' : entry.Asked meters now flushed data
      ((shows wire.line).seen now) :=
    { asked with taken := by rw [LineView.seen_taken, asked.taken] }
  -- A look sees the reply, and it is only in part that it was read before.
  have seen : ((shows wire.line).seen now).Gathers now instant
        (replyFrame entry.device data) reply ∧
      (idle = idlePolls ∨
        (((shows wire.line).seen now).buffer = [] ∧ instant < now)) := by
    rcases reading with ⟨rfl, rfl, expects⟩ | ⟨gathers, rest⟩
    · exact ⟨expects.seen_due (expects.due rfl), Or.inl rfl⟩
    · rw [LineView.seen_of_none gathers.coming]
      exact ⟨gathers, rest⟩
  obtain ⟨gathers, rest⟩ := seen
  have short : reply.length ≤ 9 := by
    rw [← long, ← gathers.split, List.length_append]
    omega
  cases moves with
  | finishes _ _ complete =>
      rcases reading with ⟨rfl, rfl, _⟩ | ⟨whole, rest⟩
      · simp [idlePolls, replyLimit] at complete
      · have ended : (shows wire.line).buffer = [] ∧ instant < now := by
          rcases rest with full | ended
          · simp only [idlePolls, replyLimit] at full complete
            omega
          · exact ended
        have same : reply = replyFrame entry.device data := by
          rw [← whole.split, ended.1, List.append_nil]
        refine ⟨⟨listens.listening, listens.faultless⟩, ?_, asked.taken,
          whole.quiet ended.2⟩
        exact ⟨flushed, asked.since, asked.past,
          Or.inr ⟨data, asked.answer, congrArg Except.ok same⟩⟩
  | pollFails _ _ failure _ failed =>
      rw [value] at failed
      cases failed
  | pollsNothing _ idle _ nothing =>
      rw [value] at nothing
      cases nothing
      refine ⟨heard, flushed, data, instant, ?_, ?_, ?_, Or.inr ?_⟩
      · rw [Wire.take_line, shown]
        exact asked'
      · rw [Wire.take_line, shown]
        exact gathers
      · have arrived := gathers.arrived
        have passes := settings.tick_pos
        omega
      · rw [Wire.take_line, shown]
        exact empty.mp rfl
  | polls _ idle more room found =>
      rw [value] at found
      cases found
      have unread : ((shows wire.line).seen now).buffer ≠ [] := by
        intro nothing
        exact Nat.succ_ne_zero more (empty.mpr nothing)
      refine ⟨heard, flushed, data, instant, ?_, ?_, ?_, ?_, ?_⟩
      · rw [Wire.take_line, shown]
        exact asked'
      · rw [Wire.take_line, shown]
        exact gathers
      · rcases rest with full | ended
        · exact full
        · exact (unread ended.1).elim
      · rw [Wire.take_line, shown]
        exact unread
      · simp only [chunkSize, replyLimit] at room ⊢
        omega

theorem read_serves (metered : line.Metered settings meters shows)
    (listens : wire.Listens) {reply : Bytes} {idle size deadline : Nat}
    (stands : Phase.Stands settings meters entry now (shows wire.line)
      wire.ready (.reading reply idle size deadline))
    (moves : Moves settings line now entry.frame wire
      (.reading reply idle size deadline) result) :
    result.Serves settings meters shows entry now := by
  obtain ⟨flushed, data, instant, asked, gathers, full, unread, positive⟩ :=
    stands
  have heard := listens.take (metered.readEvents now size wire.line)
  have reads := metered.reads now size wire.line positive
  rw [LineView.seen_of_none gathers.coming] at reads
  obtain ⟨octets, rest, some_, split, value, shown⟩ := reads unread
  cases moves with
  | readFails _ _ _ _ fault failed =>
      rw [value] at failed
      cases failed
  | readsNothing _ _ _ _ fruitless =>
      rcases fruitless with nothing | ⟨_, wake, pending⟩
      · rw [value] at nothing
        cases nothing
        exact (some_ rfl).elim
      · rw [value] at pending
        cases pending
  | reads _ _ _ _ other _ ready =>
      rw [value] at ready
      cases ready
      refine ⟨heard, flushed, data, instant, ?_, ?_, ?_, Or.inl rfl⟩
      · rw [Wire.take_line, shown]
        exact { asked with }
      · rw [Wire.take_line, shown]
        exact
          { gathers with
            split := by
              rw [← gathers.split, split, List.append_assoc] }
      · have arrived := gathers.arrived
        have passes := settings.tick_pos
        omega
  | readWaits _ _ _ _ wake _ pending =>
      rw [value] at pending
      cases pending

theorem rest_serves (listens : wire.Listens) {reply : Bytes}
    {idle wake : Nat}
    (stands : Phase.Stands settings meters entry now (shows wire.line)
      wire.ready (.resting reply idle wake))
    (moves : Moves settings line now entry.frame wire
      (.resting reply idle wake) result) :
    result.Serves settings meters shows entry now := by
  cases moves with
  | rests => exact ⟨listens, stands⟩
  | resumes _ _ _ due =>
      obtain ⟨flushed, data, instant, asked, gathers, before, rest⟩ := stands
      refine ⟨listens, flushed, data, instant, asked, Or.inr ⟨gathers, ?_⟩⟩
      rcases rest with full | ended
      · exact Or.inl full
      · exact Or.inr ⟨ended, Nat.lt_of_lt_of_le before due⟩

/-- Every step of an exchange on a line with meters keeps where it stands or
serves its booking. -/
theorem step_serves (metered : line.Metered settings meters shows)
    (short : settings.wait < 2 ^ 63) (booked : entry.since ≤ now)
    (listens : wire.Listens) {phase : Phase}
    (stands : phase.Stands settings meters entry now (shows wire.line)
      wire.ready) :
    (step settings line now entry.frame phase wire).Serves settings meters
      shows entry now := by
  have moves := step_moves settings line now entry.frame phase wire
  cases phase with
  | draining => exact drain_serves metered listens stands moves
  | discarding => exact discard_serves metered listens stands moves
  | writing => exact write_serves metered listens stands moves
  | flushing => exact flush_serves metered short booked listens stands moves
  | watching => exact watch_serves metered listens stands moves
  | dozing => exact doze_serves listens stands moves
  | polling => exact poll_serves metered listens stands moves
  | reading => exact read_serves metered listens stands moves
  | resting => exact rest_serves listens stands moves

theorem Phase.Stands.later {phase : Phase} {view : LineView} {ready : Bool}
    (stands : phase.Stands settings meters entry now view ready)
    {next : Nat} (passes : now ≤ next) :
    phase.Stands settings meters entry next view ready := by
  cases phase with
  | draining =>
      obtain ⟨taken, quiet⟩ := stands
      exact ⟨taken, quiet.later passes⟩
  | discarding =>
      obtain ⟨taken, quiet, rest⟩ := stands
      exact ⟨taken, quiet.later passes, rest⟩
  | writing =>
      obtain ⟨whole, quiet, rest⟩ := stands
      exact ⟨whole, quiet.later passes, rest⟩
  | flushing =>
      obtain ⟨whole, quiet, rest⟩ := stands
      exact ⟨whole, quiet.later passes, rest⟩
  | watching =>
      obtain ⟨flushed, looks, watched⟩ := stands
      exact ⟨flushed, looks, watched.later passes passes⟩
  | dozing =>
      obtain ⟨flushed, looks, watched⟩ := stands
      exact ⟨flushed, looks, watched.later passes (Nat.le_refl _)⟩
  | polling =>
      obtain ⟨flushed, data, instant, asked, reading⟩ := stands
      refine ⟨flushed, data, instant, asked.later passes, ?_⟩
      rcases reading with ⟨empty, full, expects⟩ | ⟨gathers, rest⟩
      · exact Or.inl ⟨empty, full, expects.later passes⟩
      · refine Or.inr ⟨gathers.later passes, ?_⟩
        rcases rest with full | ⟨ended, before⟩
        · exact Or.inl full
        · exact Or.inr ⟨ended, Nat.lt_of_lt_of_le before passes⟩
  | reading =>
      obtain ⟨flushed, data, instant, asked, gathers, rest⟩ := stands
      exact ⟨flushed, data, instant, asked.later passes,
        gathers.later passes, rest⟩
  | resting =>
      obtain ⟨flushed, data, instant, asked, gathers, rest⟩ := stands
      exact ⟨flushed, data, instant, asked.later passes,
        gathers.later passes, rest⟩

theorem Phase.Stands.announced {phase : Phase} {view : LineView}
    {ready : Bool}
    (stands : phase.Stands settings meters entry now view ready)
    (arrived : (view.seen now).arrival = some now) (raised : Bool) :
    phase.Stands settings meters entry now view raised := by
  have disturbs : view.Quiet now → False := by
    intro quiet
    rw [quiet.seen] at arrived
    exact Nat.lt_irrefl now (quiet.past now arrived)
  cases phase with
  | draining => exact stands
  | discarding => exact stands
  | writing => exact (disturbs stands.2.1).elim
  | flushing => exact (disturbs stands.2.1).elim
  | watching =>
      obtain ⟨flushed, looks, watched⟩ := stands
      exact ⟨flushed, looks, watched.announced arrived raised⟩
  | dozing =>
      obtain ⟨flushed, looks, watched⟩ := stands
      exact ⟨flushed, looks, watched.announced arrived raised⟩
  | polling => exact stands
  | reading => exact stands
  | resting => exact stands

end Exchange

end MeterLine
