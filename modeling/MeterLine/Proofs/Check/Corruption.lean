import MeterLine.Executor
import MeterLine.Proofs.Check.Remainder
import MeterLine.Proofs.Check.Stamp

/-!
# Damage that the check finds

Damage flips bits of a frame.  The register adds up the frame and the flipped
bits, and an intact frame leaves it at zero, so that it depends on the flipped
bits alone whether the damage is found: just if they leave something in an
empty register.
-/

namespace MeterLine

/-- A frame with the bits flipped that are set in a pattern. -/
def Bytes.flipped (frame pattern : Bytes) : Bytes :=
  List.zipWith (· ^^^ ·) frame pattern

theorem Bytes.length_flipped {frame pattern : Bytes}
    (same : pattern.length = frame.length) :
    (frame.flipped pattern).length = frame.length := by
  rw [flipped, List.length_zipWith, same, Nat.min_self]

theorem Bytes.bits_flipped (frame pattern : Bytes) :
    (frame.flipped pattern).bits =
      List.zipWith xor frame.bits pattern.bits := by
  induction frame generalizing pattern with
  | nil => rfl
  | cons octet frame induction =>
      cases pattern with
      | nil => exact List.zipWith_nil_right.symm
      | cons other pattern =>
          have parts :
              (Bytes.flipped (octet :: frame) (other :: pattern)).bits =
                lowBits 8 (octet ^^^ other).toNat ++
                  (Bytes.flipped frame pattern).bits := rfl
          rw [parts, induction, UInt8.toNat_xor, lowBits_xor,
            ← List.zipWith_append (by simp)]
          rfl

theorem Bytes.flipped_append {front frontPattern : Bytes}
    (same : frontPattern.length = front.length) (rest pattern : Bytes) :
    Bytes.flipped (front ++ rest) (frontPattern ++ pattern) =
      front.flipped frontPattern ++ rest.flipped pattern :=
  List.zipWith_append same.symm

theorem Bytes.flipped_flipped {old new : Bytes}
    (same : new.length = old.length) :
    old.flipped (old.flipped new) = new := by
  induction old generalizing new with
  | nil => exact (List.eq_nil_of_length_eq_zero same).symm
  | cons octet old induction =>
      cases new with
      | nil => cases same
      | cons other new =>
          have rest := induction (Nat.succ.inj same)
          have first : octet ^^^ (octet ^^^ other) = other := by
            rw [← UInt8.xor_assoc, UInt8.xor_self, UInt8.zero_xor]
          exact congrArg₂ List.cons first rest

def Bytes.blank (count : Nat) : Bytes :=
  List.replicate count 0

theorem Bytes.flipped_blank (octets : Bytes) :
    octets.flipped (Bytes.blank octets.length) = octets := by
  induction octets with
  | nil => rfl
  | cons octet octets induction =>
      exact congrArg₂ List.cons UInt8.xor_zero induction

theorem Bytes.bits_blank (count : Nat) :
    (Bytes.blank count).bits = List.replicate (8 * count) false := by
  induction count with
  | zero => rfl
  | succ count induction =>
      have bits : 8 * (count + 1) = 8 + 8 * count := by omega
      rw [bits, List.replicate_add, ← induction]
      rfl

theorem Bytes.true_mem_bits {octets : Bytes}
    (some : octets ≠ Bytes.blank octets.length) : true ∈ octets.bits := by
  by_contra none
  apply some
  apply Bytes.bits_injective
  rw [Crc.eq_zeros none, Bytes.bits_blank, Bytes.length_bits]

namespace Crc

theorem checksum_flipped {frame pattern : Bytes}
    (same : pattern.length = frame.length) :
    checksum (frame.flipped pattern) =
      checksum frame ^^^ remainder pattern.bits := by
  have lengths : frame.bits.length = pattern.bits.length := by
    rw [Bytes.length_bits, Bytes.length_bits, same]
  have start : (0xFFFF : UInt16) = 0xFFFF ^^^ 0 := rfl
  rw [checksum, foldl_feed_eq_foldl, Bytes.bits_flipped, start,
    foldl_takeBit_xor 1 lengths, ← foldl_feed_eq_foldl]
  rfl

/-- Damage is missed just if the flipped bits leave nothing. -/
theorem intact_flipped_iff {frame pattern : Bytes}
    (same : pattern.length = frame.length) (whole : intact frame = true) :
    intact (frame.flipped pattern) = true ↔ remainder pattern.bits = 0 := by
  have room := width_le_of_intact whole
  have zero := (intact_iff_checksum_eq_zero room).mp whole
  rw [intact_iff_checksum_eq_zero (by rwa [Bytes.length_flipped same]),
    checksum_flipped same, zero, UInt16.zero_xor]

/-- Damage that leaves something in an empty register is found. -/
theorem damage_found {frame pattern : Bytes}
    (same : pattern.length = frame.length) (whole : intact frame = true)
    (left : remainder pattern.bits ≠ 0) :
    intact (frame.flipped pattern) = false := by
  rw [← Bool.not_eq_true, intact_flipped_iff same whole]
  exact left

/-- A change of one octet or of two neighbouring ones is found. -/
theorem change_found {before old new behind : Bytes}
    (whole : intact (before ++ (old ++ behind)) = true)
    (same : new.length = old.length) (short : old.length ≤ 2)
    (changed : new ≠ old) :
    intact (before ++ (new ++ behind)) = false := by
  have width := Bytes.length_flipped same
  have ones : true ∈ (old.flipped new).bits := by
    apply Bytes.true_mem_bits
    intro blank
    apply changed
    rw [← Bytes.flipped_flipped same, blank, width, Bytes.flipped_blank]
  have flips : (before ++ (old ++ behind)).flipped
      (Bytes.blank before.length ++
        (old.flipped new ++ Bytes.blank behind.length)) =
      before ++ (new ++ behind) := by
    rw [Bytes.flipped_append (by simp [Bytes.blank]), Bytes.flipped_blank,
      Bytes.flipped_append width, Bytes.flipped_flipped same,
      Bytes.flipped_blank]
  rw [← flips]
  refine damage_found (by simp [Bytes.blank, width]) whole ?_
  rw [Bytes.bits_append, Bytes.bits_append, Bytes.bits_blank,
    Bytes.bits_blank, remainder_zeros_append, Ne,
    remainder_append_zeros_eq_zero_iff]
  refine remainder_ne_zero_of_short ?_ ones
  rw [Bytes.length_bits, width]
  omega

/-- Damage within sixteen neighbouring places of the line is found, in frames
of any length, and so is any change of one octet or of two neighbouring
ones. -/
theorem bursts_found {frame : Bytes} (whole : intact frame = true) :
    (∀ (pattern : Bytes) (start : Nat), pattern.length = frame.length →
      true ∈ pattern.bits →
      (∀ place : Nat, pattern.bits[place]? = some true →
        start ≤ place ∧ place < start + 16) →
      intact (frame.flipped pattern) = false) ∧
    (∀ before old new behind : Bytes, frame = before ++ (old ++ behind) →
      new.length = old.length → old.length ≤ 2 → new ≠ old →
      intact (before ++ (new ++ behind)) = false) := by
  constructor
  · intro pattern start same one within
    exact damage_found same whole (remainder_ne_zero_of_burst within one)
  · rintro before old new behind rfl same short changed
    exact change_found whole same short changed

def Damaged.request : Bytes :=
  [1, 3, 0, 0, 0, 2, 0xC4, 0x0B]

/-- Sixteen places, of which the first is the last one of the payload. -/
def Damaged.burst : Bytes :=
  [0, 0, 0, 0, 0, 0x80, 0xFF, 0x7F]

/-- A burst from the payload into the check, and a change of the last octet of
either. -/
theorem burst_across_check_found :
    intact Damaged.request = true ∧
      intact (Damaged.request.flipped Damaged.burst) = false ∧
      intact [1, 3, 0, 0, 0, 0xC4, 2, 0x0B] = false := by
  have whole : intact Damaged.request = true := by decide +kernel
  have within : ∀ place < 64, Damaged.burst.bits[place]? = some true →
      47 ≤ place ∧ place < 47 + 16 := by
    decide +kernel
  obtain ⟨flips, changes⟩ := bursts_found whole
  refine ⟨whole, flips Damaged.burst 47 rfl (by decide) ?_, ?_⟩
  · intro place bit
    exact within place (List.getElem?_eq_some_iff.mp bit).1 bit
  · exact changes [1, 3, 0, 0, 0] [2, 0xC4] [0xC4, 2] [0x0B] rfl rfl
      (by decide) (by decide)

/-- Damage to an odd number of bits is found in frames of any length, and
damage to two bits in frames of at most 4095 octets.  No reply with one, two
or three damaged bits is taken for a reading. -/
theorem few_flips_found {frame pattern : Bytes}
    (same : pattern.length = frame.length) (whole : intact frame = true) :
    (Odd (pattern.bits.count true) →
      intact (frame.flipped pattern) = false) ∧
    (frame.length ≤ 4095 → pattern.bits.count true = 2 →
      intact (frame.flipped pattern) = false) ∧
    (frame.length ≤ 4095 → 1 ≤ pattern.bits.count true →
      pattern.bits.count true ≤ 3 →
      intact (frame.flipped pattern) = false ∧
      ∀ (request : Request) (function : MeterFunction),
        frame.length ≤ function.replySize →
        request.judge .crc function (frame.flipped pattern) =
          .error .checkMismatch) := by
  have odd : Odd (pattern.bits.count true) →
      intact (frame.flipped pattern) = false :=
    fun odd => damage_found same whole (remainder_ne_zero_of_odd odd)
  have two : frame.length ≤ 4095 → pattern.bits.count true = 2 →
      intact (frame.flipped pattern) = false := by
    intro short two
    refine damage_found same whole (remainder_ne_zero_of_two ?_ two)
    rw [Bytes.length_bits, same]
    omega
  refine ⟨odd, two, ?_⟩
  intro short some three
  have found : intact (frame.flipped pattern) = false := by
    by_cases even : pattern.bits.count true = 2
    · exact two short even
    · exact odd (Nat.odd_iff.mpr (by omega))
  refine ⟨found, ?_⟩
  intro request function small
  have kept : (frame.flipped pattern).take function.replySize =
      frame.flipped pattern :=
    List.take_of_length_le (by rwa [Bytes.length_flipped same])
  simp only [Request.judge, kept]
  exact if_pos found

def Damaged.reply : Bytes :=
  [1, 3, 4, 0, 1, 0, 255, 235, 179]

def Damaged.three : Bytes :=
  [0x80, 0, 0, 0, 0, 0, 0, 0x10, 0x01]

def Damaged.ends : Bytes :=
  [0x01, 0, 0, 0, 0, 0, 0, 0, 0x80]

/-- Neither three nor two damaged bits of a reply pass, wherever they are. -/
theorem damaged_replies_found :
    intact Damaged.reply = true ∧
      intact (Damaged.reply.flipped Damaged.three) = false ∧
      intact (Damaged.reply.flipped Damaged.ends) = false ∧
      (Request.read 1 .currentPower).judge .crc .readCurrentPower
          (Damaged.reply.flipped Damaged.ends) =
        .error .checkMismatch := by
  have whole : intact Damaged.reply = true := by decide +kernel
  have three : Damaged.three.length = Damaged.reply.length := rfl
  have ends : Damaged.ends.length = Damaged.reply.length := rfl
  obtain ⟨odd, _, _⟩ := few_flips_found three whole
  obtain ⟨_, two, few⟩ := few_flips_found ends whole
  refine ⟨whole, odd (by decide), two (by decide) (by decide), ?_⟩
  exact (few (by decide) (by decide) (by decide)).2 _ _ (by decide)

end Crc

end MeterLine
