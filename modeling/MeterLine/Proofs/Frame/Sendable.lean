import MeterLine.Frame.Request
import MeterLine.Proofs.Check.Stamp

/-!
# Requests that may be sent

A formatter writes octets of a frame in any order and may write a place more
than once, so that a place shows what was written there last, or what stood
there before.  A request may be sent if its frame has the least size and none
of the formatter's places shows the sentinel in the end.  Only then is the
frame handed on to be finished, and it is handed on once.
-/

namespace MeterLine

/-- The octet that a formatter writes last at a place. -/
def Formatter.last? : Formatter → Nat → Option UInt8
  | [], _ => none
  | entry :: rest, place =>
      (Formatter.last? rest place).or
        (if entry.1 = place then some entry.2 else none)

theorem Bytes.getElem?_write (octets : Bytes) (index : Nat) (octet : UInt8)
    (place : Nat) :
    (octets.write index octet)[place]? =
      octets[place]?.map fun other =>
        if index = place then octet else other := by
  rw [write, List.getElem?_set]
  by_cases here : index = place
  · subst here
    by_cases inside : index < octets.length
    · simp [inside]
    · simp [inside]
  · simp [here]

theorem Formatter.mem_of_last? {formatter : Formatter} {place : Nat}
    {octet : UInt8} (written : formatter.last? place = some octet) :
    (place, octet) ∈ formatter := by
  induction formatter with
  | nil => cases written
  | cons entry rest induction =>
      rw [last?] at written
      cases later : Formatter.last? rest place with
      | some other =>
          rw [later, Option.some_or] at written
          exact List.mem_cons_of_mem _ (induction (later.trans written))
      | none =>
          rw [later, Option.none_or] at written
          split at written
          · next here =>
            cases written
            rw [← here]
            exact List.mem_cons_self
          · cases written

theorem Formatter.getElem?_foldl (formatter : Formatter) (frame : Bytes)
    (place : Nat) :
    (formatter.foldl (fun frame entry => Bytes.write frame entry.1 entry.2)
        frame)[place]? =
      frame[place]?.map fun octet =>
        (formatter.last? place).getD octet := by
  induction formatter generalizing frame with
  | nil => simp [last?]
  | cons entry rest induction =>
      rw [List.foldl_cons, induction, Bytes.getElem?_write, Option.map_map]
      congr 1
      funext octet
      simp only [Function.comp_apply, last?]
      cases Formatter.last? rest place with
      | some later => rfl
      | none => split <;> rfl

namespace Request

def seed (request : Request) (place : Nat) : UInt8 :=
  if place = 0 then request.device
  else if place = 3 then request.register.address
  else if place ∈ formatterPlaces then sentinel
  else 0

theorem getElem?_blank (request : Request) (place : Nat) :
    request.blank[place]? =
      if place < request.size then some (request.seed place) else none := by
  simp only [blank, formatterPlaces, List.foldl_cons, List.foldl_nil,
    Bytes.getElem?_write, List.getElem?_replicate]
  by_cases inside : place < request.size
  · simp only [if_pos inside, Option.map_some, seed, formatterPlaces]
    grind
  · simp only [if_neg inside, Option.map_none]

@[simp] theorem length_blank (request : Request) :
    request.blank.length = request.size := by
  simp [blank, formatterPlaces]

@[simp] theorem length_formatted (request : Request) :
    request.formatted.length = request.size := by
  have kept : ∀ (formatter : Formatter) (frame : Bytes),
      (formatter.foldl (fun frame entry => Bytes.write frame entry.1 entry.2)
        frame).length = frame.length := by
    intro formatter
    induction formatter with
    | nil => exact fun _ => rfl
    | cons entry rest induction =>
        intro frame
        rw [List.foldl_cons, induction, Bytes.length_write]
  rw [formatted, kept, length_blank]

theorem getElem?_formatted (request : Request) {place : Nat}
    (inside : place < request.size) :
    request.formatted[place]? =
      some ((request.formatter.last? place).getD (request.seed place)) := by
  rw [formatted, Formatter.getElem?_foldl, getElem?_blank, if_pos inside]
  rfl

theorem unset?_eq_none_iff {frame : Bytes} :
    unset? frame = none ↔
      ∀ place ∈ formatterPlaces, frame[place]? ≠ some sentinel := by
  simp [unset?, List.find?_eq_none]

/-- The places are looked at in ascending order. -/
theorem unset?_eq_some {frame : Bytes} {place : Nat}
    (own : place ∈ formatterPlaces) (unset : frame[place]? = some sentinel)
    (first : ∀ earlier ∈ formatterPlaces, earlier < place →
      frame[earlier]? ≠ some sentinel) :
    unset? frame = some place := by
  have places : place = 1 ∨ place = 4 ∨ place = 5 := by
    simpa [formatterPlaces] using own
  rcases places with rfl | rfl | rfl
  · simp [unset?, formatterPlaces, unset]
  · have one := first 1 (by decide) (by decide)
    simp [unset?, formatterPlaces, unset, one]
  · have one := first 1 (by decide) (by decide)
    have four := first 4 (by decide) (by decide)
    simp [unset?, formatterPlaces, unset, one, four]

/-- The frame has room for a request, and the formatter has set its places. -/
structure Sendable (request : Request) : Prop where
  long : minimumSize ≤ request.size
  set : ∀ place ∈ formatterPlaces,
    request.formatted[place]? ≠ some sentinel

theorem checked_of_short {request : Request}
    (short : request.size < minimumSize) :
    request.checked = .error (.configuration
      s!"request size {request.size} is below the minimum frame size {minimumSize}") :=
  if_pos short

theorem checked_of_unset {request : Request} {place : Nat}
    (long : minimumSize ≤ request.size)
    (unset : unset? request.formatted = some place) :
    request.checked = .error (.configuration
      s!"frame byte {place} was not set by the formatter") := by
  rw [checked, if_neg (Nat.not_lt_of_le long), unset]

theorem Sendable.checked {request : Request} (sendable : request.Sendable) :
    request.checked = .ok request.formatted := by
  rw [Request.checked, if_neg (Nat.not_lt_of_le sendable.long),
    unset?_eq_none_iff.mpr sendable.set]

theorem Sendable.getElem?_unwritten {request : Request}
    (sendable : request.Sendable) {place : Nat}
    (inside : place < request.size)
    (unwritten : request.formatter.last? place = none) :
    request.formatted[place]? = some
      (if place = 0 then request.device
      else if place = 3 then request.register.address
      else 0) := by
  have shown := request.getElem?_formatted inside
  rw [unwritten, Option.getD_none] at shown
  have foreign : place ∉ formatterPlaces := by
    intro own
    have other : place ≠ 0 ∧ place ≠ 3 := by
      constructor <;> rintro rfl <;> revert own <;> decide
    apply sendable.set place own
    rw [shown, seed, if_neg other.1, if_neg other.2, if_pos own]
  rw [shown, seed, if_neg foreign]

theorem sendable_of_checked {request : Request} {frame : Bytes}
    (sound : request.checked = .ok frame) : request.Sendable := by
  unfold Request.checked at sound
  split at sound
  · cases sound
  · next long =>
    split at sound
    · cases sound
    · next set =>
      exact ⟨Nat.le_of_not_lt long, unset?_eq_none_iff.mp set⟩

theorem Sendable.message {request : Request} (sendable : request.Sendable)
    (stamp : Bytes → Bytes) :
    request.message stamp = .ok (stamp request.formatted) := by
  rw [message_eq_map, sendable.checked]
  rfl

theorem exists_message_iff {request : Request} {stamp : Bytes → Bytes} :
    (∃ frame, request.message stamp = .ok frame) ↔ request.Sendable := by
  constructor
  · rintro ⟨frame, sent⟩
    rw [message_eq_map] at sent
    cases checked : request.checked with
    | error failure =>
        rw [checked] at sent
        cases sent
    | ok frame => exact sendable_of_checked checked
  · intro sendable
    exact ⟨_, sendable.message stamp⟩

section Finish

variable {m : Type → Type} [Monad m] {request : Request}
  (action : Bytes → m Bytes)

theorem finish_of_refused {failure : Failure}
    (refused : request.checked = .error failure) :
    request.finish action = pure (.error failure) := by
  rw [finish, refused]

theorem Sendable.finish (sendable : request.Sendable) :
    request.finish action =
      (do
        let finished ← action request.formatted
        return .ok finished) := by
  rw [Request.finish, sendable.checked]

end Finish

/-- A frame is finished just if it may be sent: an action is run on it once,
with whatever effects it has, and otherwise not at all, and the failure names
the first of the formatter's places that was not set.  The frame that the
action gets shows what the formatter wrote, and the address, the register and
zeros elsewhere.  Stamping keeps all of it but the last two octets and leaves
it intact. -/
theorem finished_once_if_sendable {m : Type → Type} [Monad m]
    {request : Request}
    (inRange : ∀ entry ∈ request.formatter, entry.1 < request.size)
    (action : Bytes → m Bytes) (stamp : Bytes → Bytes) :
    ((∃ frame, request.message stamp = .ok frame) ↔ request.Sendable) ∧
    (request.size < minimumSize →
      request.finish action = pure (.error (.configuration
        s!"request size {request.size} is below the minimum frame size {minimumSize}"))) ∧
    (∀ place ∈ formatterPlaces, minimumSize ≤ request.size →
      request.formatted[place]? = some sentinel →
      (∀ earlier ∈ formatterPlaces, earlier < place →
        request.formatted[earlier]? ≠ some sentinel) →
      request.finish action = pure (.error (.configuration
        s!"frame byte {place} was not set by the formatter"))) ∧
    (request.Sendable →
      request.finish action =
        (do
          let finished ← action request.formatted
          return .ok finished) ∧
      request.message stamp = .ok (stamp request.formatted) ∧
      request.formatted.length = request.size ∧
      (∀ place octet, request.formatter.last? place = some octet →
        request.formatted[place]? = some octet) ∧
      (∀ place < request.size, request.formatter.last? place = none →
        request.formatted[place]? = some
          (if place = 0 then request.device
          else if place = 3 then request.register.address
          else 0)) ∧
      (Crc.stamp request.formatted).length = request.size ∧
      (Crc.stamp request.formatted).take (request.size - Crc.width) =
        request.formatted.take (request.size - Crc.width) ∧
      Crc.intact (Crc.stamp request.formatted) = true) := by
  refine ⟨exists_message_iff, ?_, ?_, ?_⟩
  · intro short
    exact finish_of_refused action (checked_of_short short)
  · intro place own long unset first
    exact finish_of_refused action
      (checked_of_unset long (unset?_eq_some own unset first))
  · intro sendable
    refine ⟨sendable.finish action, sendable.message stamp,
      request.length_formatted, ?_, ?_, ?_⟩
    · intro place octet written
      rw [getElem?_formatted _
        (inRange _ (Formatter.mem_of_last? written)), written]
      rfl
    · intro place inside unwritten
      exact sendable.getElem?_unwritten inside unwritten
    · have room : Crc.width ≤ request.formatted.length :=
        request.length_formatted ▸ Nat.le_trans (by decide) sendable.long
      have front := Crc.take_stamp room
      rw [length_formatted] at front
      exact ⟨(Crc.length_stamp room).trans request.length_formatted, front,
        Crc.intact_stamp room⟩

namespace CustomRequests

/-- A request of twelve octets.  Its formatter writes the sentinel first and
another octet behind it, and it writes the address and the place of the check
as well. -/
def wide : Request :=
  { device := 1
    register := .voltagePhase1
    size := 12
    formatter := [(5, 2), (4, 0xFF), (11, 0x77), (0, 0x20), (1, 3), (4, 0)] }

def incomplete : Request :=
  { device := 1
    register := .totalPower
    size := 8
    formatter := [(1, 3)] }

def narrow : Request :=
  { device := 1
    register := .totalPower
    size := 6
    formatter := readFormatter }

def noteAndStamp (frame : Bytes) : StateM (List Bytes) Bytes := do
  modify fun frames => frames ++ [frame]
  return Crc.stamp frame

end CustomRequests

open CustomRequests

theorem wide_request_finished_once :
    wide.Sendable ∧
      (wide.finish noteAndStamp).run [] =
        (.ok (Crc.stamp [0x20, 3, 0, 0x80, 0, 2, 0, 0, 0, 0, 0, 0x77]),
          [[0x20, 3, 0, 0x80, 0, 2, 0, 0, 0, 0, 0, 0x77]]) ∧
      Crc.intact (Crc.stamp wide.formatted) = true ∧
      (incomplete.finish noteAndStamp).run [] =
        (.error (.configuration
          "frame byte 4 was not set by the formatter"), []) ∧
      (narrow.finish noteAndStamp).run [] =
        (.error (.configuration
          "request size 6 is below the minimum frame size 8"), []) := by
  have sendable : wide.Sendable := ⟨by decide, by decide⟩
  have wideRange : ∀ entry ∈ wide.formatter, entry.1 < wide.size := by
    decide
  have incompleteRange : ∀ entry ∈ incomplete.formatter,
      entry.1 < incomplete.size := by
    decide
  have narrowRange : ∀ entry ∈ narrow.formatter, entry.1 < narrow.size := by
    decide
  obtain ⟨_, _, _, finished⟩ :=
    finished_once_if_sendable wideRange noteAndStamp Crc.stamp
  obtain ⟨_, _, unset, _⟩ :=
    finished_once_if_sendable incompleteRange noteAndStamp Crc.stamp
  obtain ⟨_, short, _, _⟩ :=
    finished_once_if_sendable narrowRange noteAndStamp Crc.stamp
  obtain ⟨once, _, _, _, _, _, _, intact⟩ := finished sendable
  refine ⟨sendable, ?_, intact, ?_, ?_⟩
  · rw [once]
    rfl
  · rw [unset 4 (by decide) (by decide) (by decide) (by decide)]
    rfl
  · rw [short (by decide)]
    rfl

end Request

end MeterLine
