import Mathlib.Algebra.Group.Nat.Defs
import MeterLine.Crc

/-!
# The register of the frame check

The line carries an octet bit by bit, the least significant bit first, and the
register takes a frame in the same way: each bit is added to its lowest place,
and then the register is shifted once.  Adding is exclusive or, and a shift
keeps it: the register of the sum of two streams is the sum of their registers.
A shift also loses nothing, so that a register which is not zero stays so
however often it is shifted.
-/

namespace MeterLine

theorem testBit_of_lt {value width place : Nat} (fits : value < 2 ^ width)
    (outside : width ≤ place) : value.testBit place = false :=
  Nat.testBit_lt_two_pow (Nat.lt_of_lt_of_le fits
    (Nat.pow_le_pow_right (by decide) outside))

def lowBits (width value : Nat) : List Bool :=
  (List.range width).map value.testBit

@[simp] theorem length_lowBits (width value : Nat) :
    (lowBits width value).length = width := by
  simp [lowBits]

theorem getElem?_lowBits {width place : Nat} (value : Nat)
    (inside : place < width) :
    (lowBits width value)[place]? = some (value.testBit place) := by
  simp [lowBits, inside]

theorem lowBits_append (width more value : Nat) :
    lowBits width value ++ lowBits more (value >>> width) =
      lowBits (width + more) value := by
  simp [lowBits, List.range_add, Function.comp_def, Nat.testBit_shiftRight]

theorem lowBits_mod (width value : Nat) :
    lowBits width (value % 2 ^ width) = lowBits width value := by
  simp only [lowBits, List.map_inj_left, List.mem_range,
    Nat.testBit_mod_two_pow]
  intro place inside
  simp [inside]

theorem lowBits_xor (width left right : Nat) :
    lowBits width (left ^^^ right) =
      List.zipWith xor (lowBits width left) (lowBits width right) := by
  simp [lowBits, List.zipWith_map, List.zipWith_self]

theorem lowBits_injective {width left right : Nat} (leftFits : left < 2 ^ width)
    (rightFits : right < 2 ^ width)
    (same : lowBits width left = lowBits width right) : left = right := by
  apply Nat.eq_of_testBit_eq
  intro place
  by_cases inside : place < width
  · have bit := congrArg (fun bits => bits[place]?) same
    simpa [getElem?_lowBits _ inside] using bit
  · have outside := Nat.le_of_not_lt inside
    rw [testBit_of_lt leftFits outside, testBit_of_lt rightFits outside]

namespace Crc

def bitAt (register : UInt16) (place : Nat) : Bool :=
  register.toNat.testBit place

theorem register_ext {left right : UInt16}
    (same : ∀ place, bitAt left place = bitAt right place) : left = right :=
  UInt16.toNat_inj.mp (Nat.eq_of_testBit_eq same)

theorem bitAt_of_le (register : UInt16) {place : Nat} (outside : 16 ≤ place) :
    bitAt register place = false :=
  testBit_of_lt register.toNat_lt outside

@[simp] theorem bitAt_zero (place : Nat) : bitAt 0 place = false :=
  Nat.zero_testBit place

theorem bitAt_one (place : Nat) : bitAt 1 place = decide (0 = place) :=
  Nat.testBit_two_pow (n := 0)

@[simp] theorem bitAt_xor (left right : UInt16) (place : Nat) :
    bitAt (left ^^^ right) place = (bitAt left place ^^ bitAt right place) := by
  rw [bitAt, UInt16.toNat_xor, Nat.testBit_xor]
  rfl

theorem bitAt_lowered (register : UInt16) (place : Nat) :
    bitAt (register >>> 1) place = bitAt register (place + 1) := by
  rw [bitAt, UInt16.toNat_shiftRight, Nat.testBit_shiftRight, Nat.add_comm]
  rfl

theorem bitAt_raised (register : UInt16) (place : Nat) :
    bitAt (register <<< 1) place =
      (decide (place < 16) && (decide (1 ≤ place) &&
        bitAt register (place - 1))) := by
  rw [bitAt, UInt16.toNat_shiftLeft, Nat.testBit_mod_two_pow]
  exact congrArg _ (Nat.testBit_shiftLeft _)

theorem lowest_iff (register : UInt16) :
    register &&& 1 = 1 ↔ bitAt register 0 = true := by
  rw [← UInt16.toNat_inj]
  simp [bitAt, Nat.testBit_zero]

/-- A shift moves every bit to the next lower place, and takes the polynomial
in if the lowest bit was a one. -/
theorem bitAt_shift (register : UInt16) (place : Nat) :
    bitAt (shift register) place =
      (bitAt register (place + 1) ^^
        (bitAt register 0 && bitAt polynomial place)) := by
  unfold shift
  split
  · next one =>
    rw [bitAt_xor, bitAt_lowered, (lowest_iff register).mp one, Bool.true_and]
  · next zero =>
    rw [lowest_iff, Bool.not_eq_true] at zero
    rw [bitAt_lowered, zero, Bool.false_and, Bool.xor_false]

@[simp] theorem shift_zero : shift 0 = 0 := rfl

theorem shift_xor (left right : UInt16) :
    shift (left ^^^ right) = shift left ^^^ shift right := by
  apply register_ext
  intro place
  simp only [bitAt_xor, bitAt_shift, Bool.and_xor_distrib_right,
    Bool.xor_assoc, Bool.xor_left_comm]

theorem shift_eq_zero_iff {register : UInt16} :
    shift register = 0 ↔ register = 0 := by
  constructor
  · intro gone
    have bits : ∀ place, (bitAt register (place + 1) ^^
        (bitAt register 0 && bitAt polynomial place)) = false := by
      intro place
      rw [← bitAt_shift, gone, bitAt_zero]
    have highest : bitAt polynomial 15 = true := by decide
    have lowest : bitAt register 0 = false := by
      have left := bits 15
      rw [bitAt_of_le register (Nat.le_refl 16), highest] at left
      simpa using left
    apply register_ext
    intro place
    cases place with
    | zero => rw [lowest, bitAt_zero]
    | succ place =>
        have moved := bits place
        rw [lowest] at moved
        simpa using moved
  · intro zero
    rw [zero, shift_zero]

@[simp] theorem shifts_zero (count : Nat) : shifts count 0 = 0 := by
  induction count with
  | zero => rfl
  | succ count induction => exact induction

theorem shifts_xor (count : Nat) (left right : UInt16) :
    shifts count (left ^^^ right) =
      shifts count left ^^^ shifts count right := by
  induction count generalizing left right with
  | zero => rfl
  | succ count induction =>
      rw [shifts, shift_xor, induction]
      rfl

theorem shifts_add (first second : Nat) (register : UInt16) :
    shifts (first + second) register =
      shifts second (shifts first register) := by
  induction first generalizing register with
  | zero => rw [Nat.zero_add]; rfl
  | succ first induction =>
      rw [Nat.succ_add]
      exact induction (shift register)

theorem shifts_shift (count : Nat) (register : UInt16) :
    shifts count (shift register) = shift (shifts count register) :=
  shifts_add count 1 register

theorem shifts_eq_zero_iff {count : Nat} {register : UInt16} :
    shifts count register = 0 ↔ register = 0 := by
  induction count generalizing register with
  | zero => exact Iff.rfl
  | succ count induction =>
      rw [shifts, induction, shift_eq_zero_iff]

def multiple (bit : Bool) (register : UInt16) : UInt16 :=
  if bit then register else 0

theorem multiple_xor (first second : Bool) (register : UInt16) :
    multiple (first ^^ second) register =
      multiple first register ^^^ multiple second register := by
  cases first <;> cases second <;> simp [multiple]

theorem shifts_multiple (count : Nat) (bit : Bool) (register : UInt16) :
    shifts count (multiple bit register) =
      multiple bit (shifts count register) := by
  cases bit with
  | false => exact shifts_zero count
  | true => rfl

def takeBit (one register : UInt16) (bit : Bool) : UInt16 :=
  shift (register ^^^ multiple bit one)

def ofBits : List Bool → UInt16
  | [] => 0
  | bit :: bits => multiple bit 1 ^^^ ofBits bits <<< 1

theorem bitAt_ofBits (bits : List Bool) {place : Nat} (inside : place < 16) :
    bitAt (ofBits bits) place = bits[place]?.getD false := by
  induction bits generalizing place with
  | nil => rw [ofBits, bitAt_zero, List.getElem?_nil, Option.getD_none]
  | cons bit bits induction =>
      rw [ofBits, bitAt_xor, bitAt_raised]
      cases place with
      | zero => cases bit <;> simp [multiple, bitAt_one]
      | succ place =>
          have tail := induction (Nat.lt_of_succ_lt inside)
          cases bit <;> simp [multiple, bitAt_one, inside, tail]

/-- A register that has its highest place free is brought back by a shift. -/
theorem shift_raised {register : UInt16} (free : bitAt register 15 = false) :
    shift (register <<< 1) = register := by
  apply register_ext
  intro place
  rw [bitAt_shift, bitAt_raised, bitAt_raised]
  by_cases inside : place + 1 < 16
  · simp [inside]
  · have empty : bitAt register place = false := by
      rcases Nat.eq_or_lt_of_le (Nat.le_of_not_lt inside) with last | outside
      · rw [Nat.succ.inj last.symm, free]
      · exact bitAt_of_le register (Nat.le_of_lt_succ outside)
    simp [inside, empty]

/-- Up to sixteen bits may as well be taken in at once: the place of a bit is
the number of shifts after which it leaves. -/
theorem foldl_takeBit_one {bits : List Bool} (few : bits.length ≤ 16)
    (register : UInt16) :
    bits.foldl (takeBit 1) register =
      shifts bits.length (register ^^^ ofBits bits) := by
  induction bits generalizing register with
  | nil => rw [ofBits, UInt16.xor_zero]; rfl
  | cons bit bits induction =>
      have free : bitAt (ofBits bits) 15 = false := by
        rw [bitAt_ofBits bits (by decide),
          List.getElem?_eq_none (Nat.le_of_succ_le_succ few)]
        rfl
      have taken : takeBit 1 register bit ^^^ ofBits bits =
          shift (register ^^^ ofBits (bit :: bits)) := by
        rw [takeBit, ofBits, ← UInt16.xor_assoc,
          shift_xor _ (ofBits bits <<< 1), shift_raised free]
      rw [List.foldl_cons, induction (Nat.le_of_succ_le few), taken]
      rfl

theorem foldl_takeBit_xor (one : UInt16) {left right : List Bool}
    (same : left.length = right.length) (first second : UInt16) :
    (List.zipWith xor left right).foldl (takeBit one) (first ^^^ second) =
      left.foldl (takeBit one) first ^^^ right.foldl (takeBit one) second := by
  induction left generalizing right first second with
  | nil =>
      cases right with
      | nil => rfl
      | cons bit right => cases same
  | cons bit left induction =>
      cases right with
      | nil => cases same
      | cons other right =>
          have taken : takeBit one (first ^^^ second) (bit ^^ other) =
              takeBit one first bit ^^^ takeBit one second other := by
            rw [takeBit, takeBit, takeBit, ← shift_xor, multiple_xor]
            ac_rfl
          rw [List.zipWith_cons_cons, List.foldl_cons, taken]
          exact induction (Nat.succ.inj same) _ _

/-- What shifted ones leave is the shifted register. -/
theorem shifts_foldl_takeBit (count : Nat) (one : UInt16) (bits : List Bool)
    (register : UInt16) :
    shifts count (bits.foldl (takeBit one) register) =
      bits.foldl (takeBit (shifts count one)) (shifts count register) := by
  induction bits generalizing register with
  | nil => rfl
  | cons bit bits induction =>
      have taken : shifts count (takeBit one register bit) =
          takeBit (shifts count one) (shifts count register) bit := by
        rw [takeBit, takeBit, shifts_shift, shifts_xor, shifts_multiple]
      rw [List.foldl_cons, induction, taken]
      rfl

theorem ofBits_lowBits {width : Nat} (narrow : width ≤ 16) {register : UInt16}
    (fits : register.toNat < 2 ^ width) :
    ofBits (lowBits width register.toNat) = register := by
  apply register_ext
  intro place
  by_cases inside : place < width
  · rw [bitAt_ofBits _ (Nat.lt_of_lt_of_le inside narrow),
      getElem?_lowBits _ inside]
    rfl
  · have empty : bitAt register place = false :=
      testBit_of_lt fits (Nat.le_of_not_lt inside)
    by_cases low : place < 16
    · rw [bitAt_ofBits _ low, List.getElem?_eq_none (by simpa using inside),
        empty]
      rfl
    · rw [bitAt_of_le _ (Nat.le_of_not_lt low), empty]

theorem lowBits_ofBits {bits : List Bool} (long : bits.length = 16) :
    lowBits 16 (ofBits bits).toNat = bits := by
  apply List.ext_getElem?
  intro place
  by_cases inside : place < 16
  · have there : place < bits.length := by omega
    have bit := bitAt_ofBits bits inside
    rw [List.getElem?_eq_getElem there] at bit ⊢
    rw [getElem?_lowBits _ inside]
    exact congrArg some bit
  · rw [List.getElem?_eq_none (by simpa using inside),
      List.getElem?_eq_none (by omega)]

theorem feed_eq_foldl (register : UInt16) (octet : UInt8) :
    feed register octet =
      (lowBits 8 octet.toNat).foldl (takeBit 1) register := by
  have octetBits : ofBits (lowBits 8 octet.toNat) = octet.toUInt16 := by
    rw [← UInt8.toNat_toUInt16]
    exact ofBits_lowBits (by decide) (by simpa using octet.toNat_lt)
  rw [foldl_takeBit_one (by simp), octetBits, length_lowBits]
  rfl

end Crc

/-- The bits of octets in the order of the line. -/
def Bytes.bits (octets : Bytes) : List Bool :=
  octets.flatMap fun octet => lowBits 8 octet.toNat

namespace Crc

theorem foldl_feed_eq_foldl (octets : Bytes) (register : UInt16) :
    octets.foldl feed register = octets.bits.foldl (takeBit 1) register := by
  rw [Bytes.bits, List.foldl_flatMap]
  have fed : feed = fun register octet =>
      (lowBits 8 octet.toNat).foldl (takeBit 1) register :=
    funext fun register => funext fun octet => feed_eq_foldl register octet
  rw [fed]

end Crc

end MeterLine
