import MeterLine.Proofs.Frame.BigEndian

/-!
# Reading fields at any offset

A field is read if and only if it lies inside the frame, and what is read is
the number whose octets stand there.  The end of the field is summed up before
anything is compared, and the program stops where the sum does not fit in a
machine word.
-/

namespace MeterLine

namespace Bytes

/-- Write octets over those from a place on. -/
def overwrite (octets : Bytes) (start : ℕ) (others : Bytes) : Bytes :=
  octets.take start ++ others ++ octets.drop (start + others.length)

theorem length_overwrite {octets others : Bytes} {start : ℕ}
    (inside : start + others.length ≤ octets.length) :
    (octets.overwrite start others).length = octets.length := by
  simp only [overwrite, List.length_append, List.length_take,
    List.length_drop]
  omega

theorem overwrite_shows {octets others : Bytes} {start : ℕ}
    (inside : start + others.length ≤ octets.length) :
    ((octets.overwrite start others).drop start).take others.length =
      others := by
  have front : (octets.take start).length = start := by
    rw [List.length_take]
    omega
  rw [overwrite, List.append_assoc, List.drop_left' front, List.take_left]

theorem length_part {octets : Bytes} {start width : ℕ}
    (inside : start + width ≤ octets.length) :
    ((octets.drop start).take width).length = width := by
  rw [List.length_take, List.length_drop]
  omega

end Bytes

namespace Frame

variable {width : ℕ} {offset : UInt64} {frame : Bytes}

/-- What comes of reading a field of a frame, where values are written as
octets in some way: the value that stands there if the field lies inside, or
else the failure that says how much is missing, unless the program stops. -/
structure Delivers {α : Type} (width : ℕ) (writtenAs : α → Bytes → Prop)
    (frame : Bytes) (offset : UInt64) (outcome : Option (Except Failure α)) :
    Prop where
  success_iff : (∃ value, outcome = some (.ok value)) ↔
    offset.toNat + width ≤ frame.length
  value : ∀ value, outcome = some (.ok value) →
    writtenAs value ((frame.drop offset.toNat).take width)
  failure : frame.length < offset.toNat + width →
    offset.toNat + width < UInt64.size →
      outcome = some (.error (.invalidData
        s!"need {width} bytes at offset {offset}, frame has {frame.length}"))
  stop_iff : outcome = none ↔ UInt64.size ≤ offset.toNat + width

theorem delivers {α : Type} {writtenAs : α → Bytes → Prop}
    {read : Bytes → α} {outcome : Option (Except Failure α)}
    (reads : ∀ octets : Bytes, octets.length = width →
      writtenAs (read octets) octets)
    (same : outcome =
      (Place.of? width offset).map fun place => (field frame place).map read)
    (held : frame.length < UInt64.size) :
    Delivers width writtenAs frame offset outcome := by
  subst same
  by_cases fits : offset.toNat + width < UInt64.size
  · rw [Place.of?, dif_pos fits, Option.map_some, field]
    by_cases inside : offset.toNat + width ≤ frame.length
    · rw [if_pos inside]
      refine
        { success_iff := iff_of_true ⟨_, rfl⟩ inside
          value := ?_
          failure := fun outside => absurd inside (Nat.not_le.mpr outside)
          stop_iff := iff_of_false nofun (Nat.not_le.mpr fits) }
      rintro value ⟨⟩
      exact reads _ (Bytes.length_part inside)
    · rw [if_neg inside]
      exact
        { success_iff := iff_of_false nofun inside
          value := nofun
          failure := fun _ _ => rfl
          stop_iff := iff_of_false nofun (Nat.not_le.mpr fits) }
  · have outside : ¬offset.toNat + width ≤ frame.length := by omega
    rw [Place.of?, dif_neg fits, Option.map_none]
    exact
      { success_iff := iff_of_false nofun outside
        value := nofun
        failure := fun _ small => absurd small fits
        stop_iff := iff_of_true rfl (Nat.not_lt.mp fits) }

/-- Octets are those that a number is written as in two's complement. -/
def WrittenAs (width : ℕ) (value : ℤ) (octets : Bytes) : Prop :=
  Signed width value ∧ Bytes.ofIntBig width value = octets

theorem writtenAs_signedOfNat (octets : Bytes)
    (length : octets.length = width) :
    WrittenAs width (signedOfNat width octets.toNatBig) octets := by
  subst length
  exact (signedOfNat_toNatBig_eq_iff octets _).mp rfl

theorem signedField_overwrite {value : ℤ} (signed : Signed width value)
    (held : frame.length < UInt64.size)
    (inside : offset.toNat + width ≤ frame.length) :
    (Place.of? width offset).map
        (signedField (frame.overwrite offset.toNat (.ofIntBig width value))) =
      some (.ok value) := by
  have length := Bytes.length_ofIntBig width value
  have room : offset.toNat + (Bytes.ofIntBig width value).length ≤
      frame.length := by
    rw [length]
    exact inside
  have fits : offset.toNat + width < UInt64.size :=
    Nat.lt_of_le_of_lt inside held
  have shown := Bytes.overwrite_shows room
  have number := (signedOfNat_toNatBig_eq_iff _ value).mpr
    ⟨length.symm ▸ signed, length.symm ▸ rfl⟩
  rw [length] at shown number
  rw [Place.of?, dif_pos fits, Option.map_some, signedField, field,
    Bytes.length_overwrite room, if_pos inside, shown, Except.map, number]

/-- Fields are read if and only if they lie inside, what is read is what stands
there, and fields outside are reported, unless their end is no machine word:
there, and only there, the program stops.  A number that was written at an
offset is read back from there. -/
theorem fields_read_if_inside {frame : Bytes}
    (held : frame.length < UInt64.size) (offset : UInt64) :
    Delivers 4 (WrittenAs 4) frame offset (signed32At frame offset) ∧
    Delivers 2 (WrittenAs 2) frame offset (signed16At frame offset) ∧
    Delivers 1 (fun value octets => octets = [value]) frame offset
      (octetAt frame offset) ∧
    (∀ value, Signed 4 value → offset.toNat + 4 ≤ frame.length →
      signed32At (frame.overwrite offset.toNat (.ofIntBig 4 value)) offset =
        some (.ok value)) ∧
    (∀ value, Signed 2 value → offset.toNat + 2 ≤ frame.length →
      signed16At (frame.overwrite offset.toNat (.ofIntBig 2 value)) offset =
        some (.ok value)) := by
  refine ⟨?four, ?two, ?one, ?readFour, ?readTwo⟩
  case four => exact delivers writtenAs_signedOfNat rfl held
  case two => exact delivers writtenAs_signedOfNat rfl held
  case one =>
    refine delivers (fun octets length => ?_) rfl held
    obtain ⟨octet, rfl⟩ := List.length_eq_one_iff.mp length
    rfl
  case readFour =>
    intro value signed inside
    exact signedField_overwrite signed held inside
  case readTwo =>
    intro value signed inside
    exact signedField_overwrite signed held inside

def negativeReply : Bytes :=
  [0x01, 0x03, 0x04, 0xFF, 0xFF, 0xFF, 0xFE, 0x7A, 0x43]

theorem negative_reply_read :
    negativeReply.length < UInt64.size ∧
    signed32At negativeReply 3 = some (.ok (-2)) ∧
    WrittenAs 4 (-2) ((negativeReply.drop 3).take 4) ∧
    signed32At negativeReply 6 = some (.error (.invalidData
      "need 4 bytes at offset 6, frame has 9")) ∧
    signed16At negativeReply 0xFFFFFFFFFFFFFFFD =
      some (.error (.invalidData
        "need 2 bytes at offset 18446744073709551613, frame has 9")) ∧
    octetAt negativeReply 0xFFFFFFFFFFFFFFFF = none ∧
    signed32At (negativeReply.overwrite 5 (.ofIntBig 4 (-2147483648))) 5 =
      some (.ok (-2147483648)) := by
  have held : negativeReply.length < UInt64.size := by decide
  have read : signed32At negativeReply 3 = some (.ok (-2)) := rfl
  obtain ⟨inside, _, _, _, _⟩ := fields_read_if_inside held 3
  obtain ⟨beyond, _, _, _, _⟩ := fields_read_if_inside held 6
  obtain ⟨_, highest, _, _, _⟩ :=
    fields_read_if_inside held 0xFFFFFFFFFFFFFFFD
  obtain ⟨_, _, last, _, _⟩ := fields_read_if_inside held 0xFFFFFFFFFFFFFFFF
  obtain ⟨_, _, _, readBack, _⟩ := fields_read_if_inside held 5
  refine ⟨held, read, inside.value _ read, ?_, ?_, ?_, ?_⟩
  · exact beyond.failure (by decide) (by decide)
  · exact highest.failure (by decide) (by decide)
  · exact last.stop_iff.mpr (by decide)
  · exact readBack _ (by decide) (by decide)

/-- At the last offset the end of a field is no machine word, and the missing
field is not reported. -/
theorem last_offset_not_reported :
    negativeReply.length < (0xFFFFFFFFFFFFFFFF : UInt64).toNat + 4 ∧
    signed32At negativeReply 0xFFFFFFFFFFFFFFFF = none ∧
    ¬∃ text, signed32At negativeReply 0xFFFFFFFFFFFFFFFF =
      some (.error (.invalidData text)) := by
  have stopped : signed32At negativeReply 0xFFFFFFFFFFFFFFFF = none := by
    rfl
  refine ⟨by decide, stopped, ?_⟩
  rw [stopped]
  rintro ⟨text, ⟨⟩⟩

end Frame

end MeterLine
