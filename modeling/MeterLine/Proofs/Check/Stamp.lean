import MeterLine.Proofs.Check.Register

/-!
# Stamped and intact frames

A frame of at least two octets is a payload with two more octets behind it.
Stamping computes these two octets and testing compares them, and both go by
the payload alone.  A payload has therefore one check, and a frame is intact
exactly when stamping leaves it as it is.  The register says the same thing
without looking at the place where the check begins: a frame is intact exactly
when it leaves the register at zero.
-/

namespace MeterLine

@[simp] theorem Bytes.bits_append (left right : Bytes) :
    Bytes.bits (left ++ right) = left.bits ++ right.bits :=
  List.flatMap_append

@[simp] theorem Bytes.length_bits (octets : Bytes) :
    octets.bits.length = 8 * octets.length := by
  induction octets with
  | nil => rfl
  | cons octet octets induction =>
      rw [bits, List.flatMap_cons, List.length_append, length_lowBits,
        List.length_cons, Nat.mul_succ, ← induction, Nat.add_comm]
      rfl

theorem Bytes.bits_injective {left right : Bytes}
    (same : left.bits = right.bits) : left = right := by
  have equal : left.length = right.length := by
    have lengths := congrArg List.length same
    simp only [length_bits] at lengths
    omega
  induction left generalizing right with
  | nil =>
      cases right with
      | nil => rfl
      | cons octet right => cases equal
  | cons octet left induction =>
      cases right with
      | nil => cases equal
      | cons other right =>
          have parts := List.append_inj same (by simp)
          have first : octet = other := UInt8.toNat_inj.mp
            (lowBits_injective octet.toNat_lt other.toNat_lt parts.1)
          rw [first, induction parts.2 (Nat.succ.inj equal)]

namespace Crc

@[simp] theorem length_trailer (payload : Bytes) :
    (trailer payload).length = width := rfl

theorem bits_trailer (octets : Bytes) :
    (trailer octets).bits = lowBits 16 (checksum octets).toNat := by
  have low : (checksum octets).toUInt8.toNat =
      (checksum octets).toNat % 2 ^ 8 := UInt16.toNat_toUInt8 _
  have high : (checksum octets >>> 8).toUInt8.toNat =
      ((checksum octets).toNat >>> 8) % 2 ^ 8 := by
    rw [UInt16.toNat_toUInt8, UInt16.toNat_shiftRight]
    rfl
  rw [← lowBits_append 8 8, ← lowBits_mod 8, ← lowBits_mod 8 (_ >>> 8),
    ← low, ← high]
  simp [Bytes.bits, trailer]

theorem exists_eq_append {frame : Bytes} (room : width ≤ frame.length) :
    ∃ octets check, check.length = width ∧ frame = octets ++ check :=
  ⟨frame.take (frame.length - width), frame.drop (frame.length - width),
    by rw [List.length_drop]; omega, (List.take_append_drop _ _).symm⟩

section Append

variable {octets check : Bytes} (two : check.length = width)
include two

theorem payload_append : payload (octets ++ check) = octets := by
  rw [payload, List.length_append, two, Nat.add_sub_cancel,
    List.take_left]

theorem not_lt_append : ¬(octets ++ check).length < width := by
  rw [List.length_append, two]
  omega

theorem stamp_append : stamp (octets ++ check) = octets ++ trailer octets := by
  rw [stamp, if_neg (not_lt_append two), payload_append two]

theorem intact_append_iff :
    intact (octets ++ check) = true ↔ check = trailer octets := by
  rw [intact, if_neg (not_lt_append two), payload_append two,
    List.length_append, two, Nat.add_sub_cancel, List.drop_left, beq_iff_eq]

/-- Two octets take the register back to zero just if they are the check. -/
theorem checksum_append_eq_zero_iff :
    checksum (octets ++ check) = 0 ↔ check = trailer octets := by
  have sixteen : check.bits.length = 16 := by
    rw [Bytes.length_bits, two]
    rfl
  -- the two octets fit the register, and the shifts behind them lose nothing
  rw [checksum, List.foldl_append, foldl_feed_eq_foldl check,
    foldl_takeBit_one (Nat.le_of_eq sixteen), shifts_eq_zero_iff,
    UInt16.xor_eq_zero_iff]
  change checksum octets = ofBits check.bits ↔ check = trailer octets
  constructor
  · intro same
    apply Bytes.bits_injective
    rw [bits_trailer, same, lowBits_ofBits sixteen]
  · intro same
    rw [same, bits_trailer]
    exact (ofBits_lowBits (Nat.le_refl 16) (UInt16.toNat_lt _)).symm

end Append

theorem stamp_of_lt {frame : Bytes} (short : frame.length < width) :
    stamp frame = frame :=
  if_pos short

theorem intact_of_lt {frame : Bytes} (short : frame.length < width) :
    intact frame = false :=
  if_pos short

theorem width_le_of_intact {frame : Bytes} (whole : intact frame = true) :
    width ≤ frame.length := by
  apply Nat.le_of_not_lt
  intro short
  rw [intact_of_lt short] at whole
  cases whole

theorem intact_frame (octets : Bytes) :
    intact (octets ++ trailer octets) = true :=
  (intact_append_iff (length_trailer octets)).mpr rfl

theorem stamp_padded (octets : Bytes) :
    stamp (octets ++ [0, 0]) = octets ++ trailer octets :=
  stamp_append rfl

section Stamp

variable {frame : Bytes} (room : width ≤ frame.length)
include room

theorem length_stamp : (stamp frame).length = frame.length := by
  obtain ⟨octets, check, two, rfl⟩ := exists_eq_append room
  rw [stamp_append two, List.length_append, List.length_append, two,
    length_trailer]

theorem take_stamp :
    (stamp frame).take (frame.length - width) =
      frame.take (frame.length - width) := by
  obtain ⟨octets, check, two, rfl⟩ := exists_eq_append room
  rw [stamp_append two, List.length_append, two, Nat.add_sub_cancel,
    List.take_left, List.take_left]

theorem intact_stamp : intact (stamp frame) = true := by
  obtain ⟨octets, check, two, rfl⟩ := exists_eq_append room
  rw [stamp_append two]
  exact intact_frame octets

theorem intact_iff_stamp_eq : intact frame = true ↔ stamp frame = frame := by
  obtain ⟨octets, check, two, rfl⟩ := exists_eq_append room
  rw [intact_append_iff two, stamp_append two, List.append_cancel_left_eq]
  exact eq_comm

theorem stamp_stamp : stamp (stamp frame) = stamp frame :=
  (intact_iff_stamp_eq (by rwa [length_stamp room])).mp (intact_stamp room)

end Stamp

/-- The test of a frame without a look at the place of its check. -/
theorem intact_iff_checksum_eq_zero {frame : Bytes}
    (room : width ≤ frame.length) :
    intact frame = true ↔ checksum frame = 0 := by
  obtain ⟨octets, check, two, rfl⟩ := exists_eq_append room
  rw [intact_append_iff two, checksum_append_eq_zero_iff two]

/-- Stamping keeps the payload of a frame and its length, gives the payload
its only check, and changes nothing but damaged frames; a frame is intact just
if the register is zero behind all of it.  A frame that has no room for a
check is not stamped and not intact. -/
theorem stamp_gives_only_check (frame : Bytes) :
    (width ≤ frame.length →
      (stamp frame).length = frame.length ∧
      (stamp frame).take (frame.length - width) =
        frame.take (frame.length - width) ∧
      intact (stamp frame) = true ∧
      (intact frame = true ↔ stamp frame = frame) ∧
      (∀ check : Bytes, check.length = width →
        (intact (payload frame ++ check) = true ↔
          check = trailer (payload frame))) ∧
      stamp (stamp frame) = stamp frame ∧
      (intact frame = true ↔ checksum frame = 0)) ∧
    (frame.length < width → stamp frame = frame ∧ intact frame = false) := by
  constructor
  · intro room
    exact ⟨length_stamp room, take_stamp room, intact_stamp room,
      intact_iff_stamp_eq room, fun _ two => intact_append_iff two,
      stamp_stamp room, intact_iff_checksum_eq_zero room⟩
  · intro short
    exact ⟨stamp_of_lt short, intact_of_lt short⟩

/-- A request is stamped over whatever stood in the place of its check, and a
single octet is not stamped at all. -/
theorem request_stamped_once :
    width ≤ ([1, 3, 0, 0, 0, 2, 0xFF, 0xFF] : Bytes).length ∧
      stamp [1, 3, 0, 0, 0, 2, 0xFF, 0xFF] =
        [1, 3, 0, 0, 0, 2, 0xC4, 0x0B] ∧
      intact (stamp [1, 3, 0, 0, 0, 2, 0xFF, 0xFF]) = true ∧
      intact [1, 3, 0, 0, 0, 2, 0xFF, 0xFF] = false ∧
      intact [1, 3, 0, 0, 0, 2, 0xC4, 0x0B] = true ∧
      ([0xAA] : Bytes).length < width ∧ stamp [0xAA] = [0xAA] ∧
      intact [0xAA] = false := by
  have room : width ≤ ([1, 3, 0, 0, 0, 2, 0xFF, 0xFF] : Bytes).length := by
    decide
  have short : ([0xAA] : Bytes).length < width := by decide
  have stamped : stamp [1, 3, 0, 0, 0, 2, 0xFF, 0xFF] =
      [1, 3, 0, 0, 0, 2, 0xC4, 0x0B] := by
    decide +kernel
  obtain ⟨_, _, passes, damaged, only, _, _⟩ :=
    (stamp_gives_only_check [1, 3, 0, 0, 0, 2, 0xFF, 0xFF]).1 room
  obtain ⟨kept, refused⟩ := (stamp_gives_only_check [0xAA]).2 short
  refine ⟨room, stamped, passes, ?_, ?_, short, kept, refused⟩
  · rw [← Bool.not_eq_true, damaged, stamped]
    decide
  · exact (only [0xC4, 0x0B] rfl).mpr (by decide +kernel)

end Crc

end MeterLine
