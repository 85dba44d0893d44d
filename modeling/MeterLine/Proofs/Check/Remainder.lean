import Mathlib.Algebra.Group.Nat.Even
import MeterLine.Proofs.Check.Period

/-!
# What bits leave in the register

An empty register takes a stream of bits and is left with a remainder.  Zeros
before the first one and behind the last one do not decide whether anything is
left.  Up to sixteen bits with a one among them leave something because they
fit the register, an odd number of ones does because the polynomial keeps the
parity of the register, and two ones do unless a whole period lies between
them.
-/

namespace MeterLine

namespace Crc

/-- What a stream of bits leaves in an empty register. -/
def remainder (bits : List Bool) : UInt16 :=
  bits.foldl (takeBit 1) 0

theorem foldl_takeBit_zeros (count : Nat) (register : UInt16) :
    (List.replicate count false).foldl (takeBit 1) register =
      shifts count register := by
  induction count generalizing register with
  | zero => rfl
  | succ count induction =>
      have taken : takeBit 1 register false = shift register := by
        rw [takeBit, multiple, if_neg Bool.false_ne_true, UInt16.xor_zero]
      rw [List.replicate_succ, List.foldl_cons, taken]
      exact induction (shift register)

theorem remainder_zeros_append (count : Nat) (bits : List Bool) :
    remainder (List.replicate count false ++ bits) = remainder bits := by
  rw [remainder, List.foldl_append, foldl_takeBit_zeros, shifts_zero]
  rfl

theorem remainder_append_zeros_eq_zero_iff {bits : List Bool} {count : Nat} :
    remainder (bits ++ List.replicate count false) = 0 ↔
      remainder bits = 0 := by
  rw [remainder, List.foldl_append, foldl_takeBit_zeros, shifts_eq_zero_iff]
  rfl

theorem remainder_ne_zero_of_short {bits : List Bool}
    (short : bits.length ≤ 16) (one : true ∈ bits) : remainder bits ≠ 0 := by
  intro zero
  rw [remainder, foldl_takeBit_one short, UInt16.zero_xor,
    shifts_eq_zero_iff] at zero
  obtain ⟨place, inside, bit⟩ := List.getElem_of_mem one
  have read := bitAt_ofBits bits (Nat.lt_of_lt_of_le inside short)
  rw [zero, bitAt_zero, List.getElem?_eq_getElem inside, bit] at read
  cases read

theorem eq_zeros {bits : List Bool} (none : true ∉ bits) :
    bits = List.replicate bits.length false := by
  refine List.eq_replicate_iff.mpr ⟨rfl, ?_⟩
  intro bit member
  cases bit with
  | false => rfl
  | true => exact absurd member none

/-- A burst of ones within sixteen places leaves something. -/
theorem remainder_ne_zero_of_burst {bits : List Bool} {start : Nat}
    (within : ∀ place : Nat, bits[place]? = some true →
      start ≤ place ∧ place < start + 16)
    (one : true ∈ bits) : remainder bits ≠ 0 := by
  have before : true ∉ bits.take start := by
    intro member
    obtain ⟨place, bit⟩ := List.mem_iff_getElem?.mp member
    rw [List.getElem?_take] at bit
    split at bit
    · next early => exact Nat.not_le_of_lt early (within place bit).1
    · cases bit
  have behind : true ∉ (bits.drop start).drop 16 := by
    intro member
    obtain ⟨place, bit⟩ := List.mem_iff_getElem?.mp member
    rw [List.drop_drop, List.getElem?_drop] at bit
    have bound := (within _ bit).2
    omega
  -- zeros, the window in which the ones lie, and zeros
  have parts : bits = bits.take start ++
      ((bits.drop start).take 16 ++ (bits.drop start).drop 16) := by
    rw [List.take_append_drop, List.take_append_drop]
  have inside : true ∈ (bits.drop start).take 16 := by
    rw [parts, List.mem_append, List.mem_append] at one
    rcases one with early | burst | late
    · exact absurd early before
    · exact burst
    · exact absurd late behind
  rw [parts, eq_zeros before, remainder_zeros_append, eq_zeros behind, Ne,
    remainder_append_zeros_eq_zero_iff]
  exact remainder_ne_zero_of_short (List.length_take_le 16 _) inside

def parity (bits : List Bool) : Bool :=
  bits.foldr xor false

theorem parity_eq_decide (bits : List Bool) :
    parity bits = decide (Odd (bits.count true)) := by
  induction bits with
  | nil => rfl
  | cons bit bits induction =>
      rw [parity, List.foldr_cons]
      change (bit ^^ parity bits) = _
      rw [induction]
      cases bit with
      | false => simp
      | true =>
          rw [Bool.true_xor, List.count_cons_self, ← decide_not]
          exact decide_eq_decide.mpr Nat.odd_add_one.symm

theorem parity_append (left right : List Bool) :
    parity (left ++ right) = (parity left ^^ parity right) := by
  induction left with
  | nil => exact (Bool.false_xor _).symm
  | cons bit left induction =>
      change (bit ^^ parity (left ++ right)) = _
      rw [induction, ← Bool.xor_assoc]
      rfl

theorem parity_zipWith_xor {left right : List Bool}
    (same : left.length = right.length) :
    parity (List.zipWith xor left right) = (parity left ^^ parity right) := by
  induction left generalizing right with
  | nil =>
      cases right with
      | nil => rfl
      | cons other right => cases same
  | cons bit left induction =>
      cases right with
      | nil => cases same
      | cons other right =>
          change ((bit ^^ other) ^^ parity (List.zipWith xor left right)) =
            ((bit ^^ parity left) ^^ (other ^^ parity right))
          rw [induction (Nat.succ.inj same)]
          simp only [Bool.xor_assoc, Bool.xor_left_comm]

def registerParity (register : UInt16) : Bool :=
  parity (lowBits 16 register.toNat)

theorem registerParity_xor (left right : UInt16) :
    registerParity (left ^^^ right) =
      (registerParity left ^^ registerParity right) := by
  rw [registerParity, UInt16.toNat_xor, lowBits_xor,
    parity_zipWith_xor (by simp)]
  rfl

theorem registerParity_lowered (register : UInt16) :
    registerParity (register >>> 1) =
      (bitAt register 0 ^^ registerParity register) := by
  have single : ∀ value : Nat, parity (lowBits 1 value) = value.testBit 0 :=
    fun value => Bool.xor_false _
  have highest : (register.toNat >>> 16).testBit 0 = false := by
    rw [Nat.testBit_shiftRight]
    exact bitAt_of_le register (Nat.le_refl 16)
  -- the bits from the lowest to one above the highest, cut at either end
  have cut : lowBits 1 register.toNat ++ lowBits 16 (register.toNat >>> 1) =
      lowBits 16 register.toNat ++ lowBits 1 (register.toNat >>> 16) := by
    rw [lowBits_append, lowBits_append]
  have parities := congrArg parity cut
  rw [parity_append, parity_append, single, single, highest, Bool.xor_false]
    at parities
  have lowered : (register >>> 1).toNat = register.toNat >>> 1 :=
    UInt16.toNat_shiftRight register 1
  rw [registerParity, registerParity, lowered, ← parities, ← Bool.xor_assoc,
    bitAt, Bool.xor_self, Bool.false_xor]

/-- A shift keeps the parity: the polynomial has an odd number of ones, and it
comes in for the one that leaves. -/
theorem registerParity_shift (register : UInt16) :
    registerParity (shift register) = registerParity register := by
  have odd : registerParity polynomial = true := by decide
  unfold shift
  split
  · next one =>
    rw [registerParity_xor, registerParity_lowered, odd,
      (lowest_iff register).mp one, Bool.xor_comm, ← Bool.xor_assoc,
      Bool.xor_self, Bool.false_xor]
  · next zero =>
    rw [lowest_iff, Bool.not_eq_true] at zero
    rw [registerParity_lowered, zero, Bool.false_xor]

theorem registerParity_foldl (bits : List Bool) (register : UInt16) :
    registerParity (bits.foldl (takeBit 1) register) =
      (registerParity register ^^ parity bits) := by
  induction bits generalizing register with
  | nil => exact (Bool.xor_false _).symm
  | cons bit bits induction =>
      have single : registerParity (multiple bit 1) = bit := by
        cases bit <;> decide
      rw [List.foldl_cons, induction, takeBit, registerParity_shift,
        registerParity_xor, single, Bool.xor_assoc]
      rfl

theorem remainder_ne_zero_of_odd {bits : List Bool}
    (odd : Odd (bits.count true)) : remainder bits ≠ 0 := by
  intro zero
  have parities := registerParity_foldl bits 0
  have empty : registerParity 0 = false := by decide
  change registerParity (remainder bits) = _ at parities
  rw [zero, empty, Bool.false_xor, parity_eq_decide, decide_eq_true odd]
    at parities
  cases parities

theorem exists_first_one {bits : List Bool} {others : Nat}
    (ones : bits.count true = others + 1) :
    ∃ zeros rest, bits = List.replicate zeros false ++ true :: rest ∧
      rest.count true = others := by
  have member : true ∈ bits :=
    List.count_pos_iff.mp (by rw [ones]; exact Nat.succ_pos others)
  obtain ⟨before, rest, rfl, none⟩ := List.eq_append_cons_of_mem member
  refine ⟨before.length, rest, ?_, ?_⟩
  · rw [← eq_zeros none]
  · rw [List.count_append, List.count_eq_zero_of_not_mem none,
      List.count_cons_self, Nat.zero_add] at ones
    exact Nat.succ.inj ones

theorem remainder_two_ones_eq_zero_iff {before between behind : Nat} :
    remainder (List.replicate before false ++
        true :: (List.replicate between false ++
          true :: List.replicate behind false)) = 0 ↔
      32767 ∣ between + 1 := by
  have first : takeBit 1 0 true = shift 1 := rfl
  rw [remainder_zeros_append, remainder, List.foldl_cons, first,
    List.foldl_append, foldl_takeBit_zeros, List.foldl_cons,
    foldl_takeBit_zeros, shifts_eq_zero_iff, takeBit, shift_eq_zero_iff,
    multiple, if_pos rfl, UInt16.xor_eq_zero_iff]
  change shifts (between + 1) 1 = 1 ↔ _
  exact shifts_one_eq_one_iff

/-- Two ones among at most 32767 bits leave something. -/
theorem remainder_ne_zero_of_two {bits : List Bool}
    (few : bits.length ≤ 32767) (two : bits.count true = 2) :
    remainder bits ≠ 0 := by
  obtain ⟨before, rest, rfl, one⟩ := exists_first_one two
  obtain ⟨between, last, rfl, none⟩ := exists_first_one one
  rw [eq_zeros (List.count_eq_zero.mp none), Ne,
    remainder_two_ones_eq_zero_iff]
  intro period
  have reach := Nat.le_of_dvd (Nat.succ_pos between) period
  simp only [List.length_append, List.length_cons,
    List.length_replicate] at few
  omega

end Crc

end MeterLine
