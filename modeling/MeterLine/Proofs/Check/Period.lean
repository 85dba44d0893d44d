import Mathlib.Dynamics.PeriodicPts.Defs
import Mathlib.Tactic.NormNum.Prime
import MeterLine.Proofs.Check.Register

/-!
# The period of the register

A register that holds a single one runs through 32767 states before it holds
the same one again.  The number of states is the product of the primes 7, 31
and 151, so that a shorter period would divide one of three numbers, and each
of them is ruled out by a look at the register after so many shifts.  These
registers are computed by repeated squaring, since a register is a polynomial
and a shift multiplies it by the unknown.
-/

namespace MeterLine

namespace Crc

theorem shifts_eq_iterate (count : Nat) : shifts count = shift^[count] := by
  induction count with
  | zero => rfl
  | succ count induction =>
      funext register
      rw [shifts, induction, Function.iterate_succ_apply]

/-- Take the bits of a register in with the register itself in place of a
one. -/
def square (register : UInt16) : UInt16 :=
  (lowBits 16 register.toNat).foldl (takeBit register) 0

theorem square_shifts (count : Nat) :
    square (shifts count 1) = shifts (count + 16 + count) 1 := by
  -- bits that stand for a shifted one leave the shifted remainder
  have own := ofBits_lowBits (Nat.le_refl 16) (shifts count 1).toNat_lt
  have plain := shifts_foldl_takeBit count 1
    (lowBits 16 (shifts count 1).toNat) 0
  rw [shifts_zero] at plain
  rw [square, ← plain, foldl_takeBit_one (by simp), own, length_lowBits,
    UInt16.zero_xor, ← shifts_add, ← shifts_add, Nat.add_assoc]

def squarings (register : UInt16) (digits : List Bool) : UInt16 :=
  digits.foldl
    (fun register digit => shifts digit.toNat (square register)) register

/-- The number of shifts that squarings come to, behind some shifts at first.
With sixteen added to it, it has the digits in base two behind those of the
first shifts. -/
def exponent (count : Nat) (digits : List Bool) : Nat :=
  digits.foldl (fun count digit => count + 16 + count + digit.toNat) count

theorem shifts_exponent (count : Nat) (digits : List Bool) :
    shifts (exponent count digits) 1 = squarings (shifts count 1) digits := by
  induction digits generalizing count with
  | nil => rfl
  | cons digit digits induction =>
      rw [squarings, List.foldl_cons, square_shifts, ← shifts_add]
      exact induction _

theorem shifts_period : shifts 32767 1 = 1 := by
  have count : exponent 0 [false, false, false, false, false, false, false,
      true, true, true, true] = 32767 := rfl
  rw [← count, shifts_exponent]
  decide +kernel

theorem shifts_4681 : shifts 4681 1 ≠ 1 := by
  have count : exponent 2 [false, true, false, true, true, false, false,
      true] = 4681 := rfl
  rw [← count, shifts_exponent]
  decide +kernel

theorem shifts_1057 : shifts 1057 1 ≠ 1 := by
  have count : exponent 0 [true, true, false, false, false, true] = 1057 :=
    rfl
  rw [← count, shifts_exponent]
  decide +kernel

theorem shifts_217 : shifts 217 1 ≠ 1 := by
  have count : exponent 13 [false, false, true] = 217 := rfl
  rw [← count, shifts_exponent]
  decide +kernel

theorem not_dvd_cofactor {period times first second : Nat}
    (positive : 0 < first) (whole : first * second = period * times)
    (longer : ¬period ∣ second) : ¬first ∣ times := by
  rintro ⟨rest, rfl⟩
  apply longer
  refine ⟨rest, Nat.eq_of_mul_eq_mul_left positive ?_⟩
  rw [whole, Nat.mul_left_comm]

theorem eq_of_dvd_32767 {period : Nat} (divides : period ∣ 32767)
    (first : ¬period ∣ 4681) (second : ¬period ∣ 1057)
    (third : ¬period ∣ 217) : period = 32767 := by
  obtain ⟨times, whole⟩ := divides
  have seven : ¬7 ∣ times := not_dvd_cofactor (by decide) whole first
  have thirtyOne : ¬31 ∣ times := not_dvd_cofactor (by decide) whole second
  have last : ¬151 ∣ times := not_dvd_cofactor (by decide) whole third
  have coprime : Nat.Coprime times (7 * 31 * 151) := by
    refine Nat.Coprime.mul_right (Nat.Coprime.mul_right ?_ ?_) ?_
    · exact ((Nat.Prime.coprime_iff_not_dvd (by norm_num)).mpr seven).symm
    · exact ((Nat.Prime.coprime_iff_not_dvd (by norm_num)).mpr thirtyOne).symm
    · exact ((Nat.Prime.coprime_iff_not_dvd (by norm_num)).mpr last).symm
  have once : times = 1 :=
    coprime.eq_one_of_dvd ⟨period, whole.trans (Nat.mul_comm _ _)⟩
  rw [once, Nat.mul_one] at whole
  exact whole.symm

/-- A single one comes back after every 32767 shifts and not before. -/
theorem shifts_one_eq_one_iff {count : Nat} :
    shifts count 1 = 1 ↔ 32767 ∣ count := by
  have periodic : ∀ {count : Nat}, shifts count 1 = 1 ↔
      Function.minimalPeriod shift 1 ∣ count := by
    intro count
    rw [← Function.isPeriodicPt_iff_minimalPeriod_dvd, shifts_eq_iterate]
    exact Iff.rfl
  have period : Function.minimalPeriod shift 1 = 32767 :=
    eq_of_dvd_32767 (periodic.mp shifts_period)
      (fun shorter => shifts_4681 (periodic.mpr shorter))
      (fun shorter => shifts_1057 (periodic.mpr shorter))
      (fun shorter => shifts_217 (periodic.mpr shorter))
  rw [periodic, period]

end Crc

end MeterLine
