import MeterLine.Proofs.Port.Moves
import MeterLine.Proofs.Sharing.Frames

/-!
# Lines with meters

A line with meters holds octets that wait to be read, takes a request octet by
octet, and lets at most one reply be on its way.  Every meter meets a request
with silence or with one whole reply, which arrives at one instant, not later
than the last look of the port that asked.  Nothing but its arrival is
announced.
-/

namespace MeterLine

/-- What a line holds as of the latest look at it. -/
structure LineView where
  buffer : Bytes
  taken : Bytes
  coming : Option (Nat × Bytes)
  arrival : Option Nat

namespace LineView

/-- The view as of an instant: a reply that is due has arrived. -/
def seen (view : LineView) (now : Nat) : LineView :=
  match view.coming with
  | some (instant, octets) =>
      if instant ≤ now then
        { view with
          buffer := view.buffer ++ octets
          coming := none
          arrival := some instant }
      else view
  | none => view

/-- Events are raised only at the instant of an arrival, and tell that data
are available or not. -/
def Announces (view : LineView) (now : Nat) (events : List PortEvent) :
    Prop :=
  ∀ event ∈ events, view.arrival = some now ∧
    ∃ ready before, event = .dataAvailable ready before

end LineView

structure Meters where
  data : Nat → UInt8 → Register → Option Bytes
  whole : ∀ {instant device register octets},
    data instant device register = some octets → octets.length = 4

/-- The time from a request to the last look for its reply. -/
def PortSettings.lastLook (settings : PortSettings) : Nat :=
  settings.wait / settings.tick * settings.tick

/-- A line with meters on it, of which `shows` tells what it holds. -/
structure Line.Metered (settings : PortSettings) (meters : Meters)
    (line : Line σ) (shows : σ → LineView) : Prop where
  looks : ∀ now state, ∃ count,
    (line.available now state).value = .ok count ∧
      (count = 0 ↔ ((shows state).seen now).buffer = []) ∧
      shows (line.available now state).line = (shows state).seen now
  reads : ∀ now size state, 0 < size →
    ((shows state).seen now).buffer ≠ [] →
      ∃ octets rest, octets ≠ [] ∧
        ((shows state).seen now).buffer = octets ++ rest ∧
        (line.read now size state).value = .ready (.ok octets) ∧
        shows (line.read now size state).line =
          { (shows state).seen now with buffer := rest }
  writes : ∀ now octets state, octets ≠ [] →
    ∃ count, count < octets.length ∧
      (line.write now octets state).value = .ready (.ok (count + 1)) ∧
      shows (line.write now octets state).line =
        { (shows state).seen now with
          taken := ((shows state).seen now).taken ++
            octets.take (count + 1) }
  flushes : ∀ now state,
    (line.flush now state).value = .ready (.ok ())
  silences : ∀ now state device register,
    (shows state).taken = Request.frame device register →
      (shows state).coming = none →
        meters.data now device register = none →
          shows (line.flush now state).line =
            { shows state with taken := [] }
  answers : ∀ now state device register data,
    (shows state).taken = Request.frame device register →
      (shows state).coming = none →
        meters.data now device register = some data →
          ∃ instant, now ≤ instant ∧ instant ≤ now + settings.lastLook ∧
            shows (line.flush now state).line =
              { shows state with
                taken := []
                coming := some (instant, replyFrame device data) }.seen now
  lookEvents : ∀ now state,
    (shows (line.available now state).line).Announces now
      (line.available now state).events
  readEvents : ∀ now size state,
    (shows (line.read now size state).line).Announces now
      (line.read now size state).events
  writeEvents : ∀ now octets state,
    (shows (line.write now octets state).line).Announces now
      (line.write now octets state).events
  flushEvents : ∀ now state,
    (shows (line.flush now state).line).Announces now
      (line.flush now state).events

namespace LineView

variable {view : LineView} {now next : Nat}

theorem seen_of_none (nothing : view.coming = none) (now : Nat) :
    view.seen now = view := by
  simp [seen, nothing]

@[simp] theorem seen_taken (view : LineView) (now : Nat) :
    (view.seen now).taken = view.taken := by
  unfold seen
  split
  · split <;> rfl
  · rfl

/-- Nothing is on its way, and what has arrived did so before. -/
structure Quiet (view : LineView) (now : Nat) : Prop where
  coming : view.coming = none
  past : ∀ instant, view.arrival = some instant → instant < now

theorem Quiet.later (quiet : view.Quiet now) (passes : now ≤ next) :
    view.Quiet next := by
  constructor
  · exact quiet.coming
  · intro instant arrived
    exact Nat.lt_of_lt_of_le (quiet.past instant arrived) passes

theorem Quiet.seen (quiet : view.Quiet now) (instant : Nat) :
    view.seen instant = view :=
  seen_of_none quiet.coming instant

theorem events_of_past {events : List PortEvent}
    (past : ∀ instant, view.arrival = some instant → instant < now)
    (announces : view.Announces now events) : events = [] := by
  cases events with
  | nil => rfl
  | cons event others =>
      have arrived := (announces event List.mem_cons_self).1
      exact (Nat.lt_irrefl now (past now arrived)).elim

theorem Quiet.events (quiet : view.Quiet now) {events : List PortEvent}
    (announces : view.Announces now events) : events = [] :=
  events_of_past quiet.past announces

structure Gathers (view : LineView) (now instant : Nat)
    (frame reply : Bytes) : Prop where
  coming : view.coming = none
  arrival : view.arrival = some instant
  arrived : instant ≤ now
  split : reply ++ view.buffer = frame

theorem Gathers.later {instant : Nat} {frame reply : Bytes}
    (gathers : view.Gathers now instant frame reply)
    (passes : now ≤ next) : view.Gathers next instant frame reply := by
  constructor
  · exact gathers.coming
  · exact gathers.arrival
  · exact Nat.le_trans gathers.arrived passes
  · exact gathers.split

theorem Gathers.quiet {instant : Nat} {frame reply : Bytes}
    (gathers : view.Gathers now instant frame reply)
    (before : instant < now) : view.Quiet now := by
  constructor
  · exact gathers.coming
  · intro other arrived
    rw [gathers.arrival] at arrived
    cases arrived
    exact before

/-- A reply is on its way.  The flag may have been raised only if it is due. -/
structure Expects (view : LineView) (now instant : Nat) (frame : Bytes)
    (ready : Bool) : Prop where
  coming : view.coming = some (instant, frame)
  buffer : view.buffer = []
  past : ∀ earlier, view.arrival = some earlier → earlier < now
  due : ready = true → instant ≤ now

theorem Expects.later {instant : Nat} {frame : Bytes} {ready : Bool}
    (expects : view.Expects now instant frame ready)
    (passes : now ≤ next) : view.Expects next instant frame ready := by
  constructor
  · exact expects.coming
  · exact expects.buffer
  · intro earlier arrived
    exact Nat.lt_of_lt_of_le (expects.past earlier arrived) passes
  · intro raised
    exact Nat.le_trans (expects.due raised) passes

theorem Expects.seen_due {instant : Nat} {frame : Bytes} {ready : Bool}
    (expects : view.Expects now instant frame ready)
    (due : instant ≤ now) : (view.seen now).Gathers now instant frame [] := by
  have view_eq : view.seen now =
      { view with
        buffer := view.buffer ++ frame
        coming := none
        arrival := some instant } := by
    simp [seen, expects.coming, due]
  rw [view_eq]
  constructor
  · rfl
  · rfl
  · exact due
  · simp [expects.buffer]

theorem Expects.seen_early {instant : Nat} {frame : Bytes} {ready : Bool}
    (expects : view.Expects now instant frame ready)
    (early : now < instant) : view.seen now = view := by
  have late : ¬instant ≤ now := Nat.not_le_of_lt early
  simp [seen, expects.coming, late]

def Awaits (view : LineView) (now instant : Nat) (frame : Bytes)
    (ready : Bool) : Prop :=
  view.Expects now instant frame ready ∨ view.Gathers now instant frame []

theorem Awaits.later {instant : Nat} {frame : Bytes} {ready : Bool}
    (awaits : view.Awaits now instant frame ready) (passes : now ≤ next) :
    view.Awaits next instant frame ready := by
  rcases awaits with expects | gathers
  · exact Or.inl (expects.later passes)
  · exact Or.inr (gathers.later passes)

theorem Awaits.seen {instant : Nat} {frame : Bytes} {ready : Bool}
    (awaits : view.Awaits now instant frame ready) :
    (view.seen now).Gathers now instant frame [] ∨
      (now < instant ∧ view.seen now = view ∧
        view.Expects now instant frame ready) := by
  rcases awaits with expects | gathers
  · by_cases due : instant ≤ now
    · exact Or.inl (expects.seen_due due)
    · have early : now < instant := Nat.lt_of_not_le due
      exact Or.inr ⟨early, expects.seen_early early, expects⟩
  · left
    rw [seen_of_none gathers.coming]
    exact gathers

end LineView

namespace Wire

structure Listens (wire : Wire σ) : Prop where
  listening : wire.listening = true
  faultless : wire.faults = []

theorem Listens.hear {wire : Wire σ} (listens : wire.Listens)
    (ready before : Bool) :
    (wire.hear (.dataAvailable ready before)).Listens := by
  simp only [Wire.hear, listens.listening, if_true]
  exact ⟨rfl, listens.faultless⟩

theorem Listens.take {wire : Wire σ} (listens : wire.Listens)
    {answer : LineAnswer σ α} {view : LineView} {now : Nat}
    (announces : view.Announces now answer.events) :
    (wire.take answer).Listens := by
  have all : ∀ (events : List PortEvent) (other : Wire σ), other.Listens →
      view.Announces now events → (events.foldl Wire.hear other).Listens := by
    intro events
    induction events with
    | nil => exact fun _ held _ => held
    | cons event others induction =>
        intro other held announced
        obtain ⟨_, ready, before, rfl⟩ :=
          announced event List.mem_cons_self
        exact induction _ (held.hear ready before) fun later member =>
          announced later (List.mem_cons_of_mem _ member)
  exact all answer.events { wire with line := answer.line }
    ⟨listens.listening, listens.faultless⟩ announces

theorem take_of_quiet (wire : Wire σ) {answer : LineAnswer σ α}
    (quiet : answer.events = []) :
    wire.take answer = { wire with line := answer.line } := by
  simp [take, quiet]

end Wire

namespace Meters

/-- The meter and the register that a frame asks for. -/
def asked? (frame : Bytes) : Option (UInt8 × Register) :=
  match frame with
  | device :: _ :: _ :: address :: _ =>
      (Register.ofAddress? address).map fun register => (device, register)
  | _ => none

theorem asked?_frame (device : UInt8) (register : Register) :
    asked? (Request.frame device register) = some (device, register) := by
  simp [asked?, Request.frame, Register.ofAddress?_address]

def reply? (meters : Meters) (now : Nat) (frame : Bytes) : Option Bytes :=
  (asked? frame).bind fun asked =>
    (meters.data now asked.1 asked.2).map (replyFrame asked.1)

theorem reply?_frame (meters : Meters) (now : Nat) (device : UInt8)
    (register : Register) :
    meters.reply? now (Request.frame device register) =
      (meters.data now device register).map (replyFrame device) := by
  rw [reply?, asked?_frame]
  rfl

def hear (meters : Meters) (delay now : Nat) (view : LineView) : LineView :=
  match meters.reply? now view.taken with
  | some reply =>
      { view with
        taken := []
        coming := some (now + delay, reply) }.seen now
  | none => { view with taken := [] }

def answer (now : Nat) (view : LineView) (value : α) :
    LineAnswer LineView α :=
  { value := value
    line := view
    events :=
      if view.arrival = some now then [.dataAvailable true false] else [] }

theorem answer_announces (now : Nat) (view : LineView) (value : α) :
    view.Announces now (answer now view value).events := by
  intro event member
  simp only [answer] at member
  split at member
  case isTrue arrived =>
      rw [List.mem_singleton.mp member]
      exact ⟨arrived, true, false, rfl⟩
  case isFalse => cases member

/-- The line that takes a request at once and gives the reply to it after a
delay. -/
def line (meters : Meters) (delay : Nat) : Line LineView :=
  { available := fun now view =>
      answer now (view.seen now) (.ok (view.seen now).buffer.length)
    read := fun now size view =>
      let seen := view.seen now
      answer now { seen with buffer := seen.buffer.drop size }
        (.ready (.ok (seen.buffer.take size)))
    write := fun now octets view =>
      let seen := view.seen now
      answer now { seen with taken := seen.taken ++ octets }
        (.ready (.ok octets.length))
    flush := fun now view =>
      answer now (meters.hear delay now view) (.ready (.ok ())) }

/-- A delay that ends before the last look makes a line with meters. -/
theorem line_metered (meters : Meters) {settings : PortSettings}
    {delay : Nat} (timely : delay ≤ settings.lastLook) :
    (meters.line delay).Metered settings meters id := by
  constructor
  · intro now view
    exact ⟨_, rfl, List.length_eq_zero_iff, rfl⟩
  · intro now size view positive unread
    refine ⟨_, _, ?_, (List.take_append_drop size _).symm, rfl, rfl⟩
    intro nothing
    rcases List.take_eq_nil_iff.mp nothing with zero | empty
    · exact Nat.ne_of_gt positive zero
    · exact unread empty
  · intro now octets view some_
    have positive := List.length_pos_iff.mpr some_
    have count : octets.length - 1 + 1 = octets.length :=
      Nat.sub_add_cancel positive
    refine ⟨octets.length - 1, Nat.sub_lt positive Nat.one_pos, ?_, ?_⟩
    · rw [count]
      rfl
    · rw [count, List.take_length]
      rfl
  · intro now view
    rfl
  · intro now view device register taken _ silent
    have nothing : meters.reply? now view.taken = none := by
      change view.taken = _ at taken
      rw [taken, reply?_frame, silent]
      rfl
    simp [line, answer, hear, nothing]
  · intro now view device register data taken _ answered
    have reply : meters.reply? now view.taken =
        some (replyFrame device data) := by
      change view.taken = _ at taken
      rw [taken, reply?_frame, answered]
      rfl
    refine ⟨now + delay, Nat.le_add_right now delay,
      Nat.add_le_add_left timely now, ?_⟩
    simp [line, answer, hear, reply]
  · intro now view
    exact answer_announces now _ _
  · intro now size view
    exact answer_announces now _ _
  · intro now octets view
    exact answer_announces now _ _
  · intro now view
    exact answer_announces now _ _

end Meters

end MeterLine
