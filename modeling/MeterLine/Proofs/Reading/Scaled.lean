import MeterLine.Proofs.Execution.Coverage
import MeterLine.Proofs.Frame.BigEndian
import MeterLine.Proofs.Number.Bits
import MeterLine.Proofs.Number.Moderate

/-!
# Measurements of replies

The data of a reply are a whole number of at most thirty-one digits and a sign.
It is rounded to single precision and divided by a power of ten.  What results
is zero, or single precision's closest number to a whole number of hundredths
of moderate size.
-/

namespace MeterLine

theorem natAbs_signedOfNat {width : ℕ} {octets : Bytes}
    (short : octets.length ≤ width) (narrow : width ≤ 4) :
    (signedOfNat width octets.toNatBig).natAbs ≤ 2 ^ 31 := by
  have small := Nat.lt_of_lt_of_le octets.toNatBig_lt
    (Nat.pow_le_pow_right (by decide : 0 < 256) short)
  have size : 256 ^ width ≤ 2 ^ 32 :=
    Nat.pow_le_pow_right (by decide : 0 < 256) narrow
  simp only [signedOfNat, Nat.pow_eq]
  generalize 256 ^ width = limit at *
  split <;> omega

namespace Single

open BinaryFormat

/-- What replies are scaled to. -/
inductive Scaled : Single → Prop where
  | zero : Scaled (signed false 0)
  | moderate (negative : Bool) {number : Dyadic} {digits places : ℕ} :
      places ≤ 2 → Moderate number →
      single.RoundsTo ((digits : ℚ) / 10 ^ places) number →
      Scaled (signed negative (single.encode number))

theorem exists_ofQuotient (numerator : ℕ) {denominator : ℕ}
    (denominates : 0 < denominator)
    (above : (1 : ℚ) / 100 ≤ numerator / denominator)
    (below : (numerator : ℚ) / denominator ≤ 2 ^ 32) :
    ∃ number, Moderate number ∧
      single.RoundsTo ((numerator : ℚ) / denominator) number ∧
      ∀ negative, ofQuotient negative numerator denominator =
        signed negative (single.encode number) := by
  have positive : 0 < numerator := by
    apply Nat.pos_of_ne_zero
    rintro rfl
    norm_num at above
  obtain ⟨number, rounded⟩ := exists_round single positive denominates
    (by decide) (lt_of_le_of_lt below (by norm_num [single]))
  have rounds := round_roundsTo (by decide) positive denominates rounded
  exact ⟨number, .of_roundsTo rounds above below, rounds,
    ofQuotient_of_roundsTo positive denominates rounds⟩

theorem divide_signed {number : Dyadic} (canonical : single.Canonical number)
    (negative : Bool) (divisor : ℕ) :
    (signed negative (single.encode number)).divide divisor =
      ofQuotient negative number.quotient.1
        (number.quotient.2 * divisor) := by
  have sign := negative_signed (encode_lt canonical) negative
  simp only [divide, magnitude_signed canonical, sign]

theorem ofInt_zero_divide (divisor : ℕ) :
    (ofInt 0).divide divisor = signed false 0 := by
  have zero : single.Canonical ⟨0, single.least⟩ :=
    ⟨by decide, by decide, by decide, Or.inl rfl⟩
  have divided := divide_signed zero false divisor
  rw [Dyadic.quotient, Nat.zero_mul, ofQuotient_zero] at divided
  exact divided

theorem exists_ofInt {value : ℤ} (nonzero : value ≠ 0)
    (small : value.natAbs ≤ 2 ^ 31) :
    ∃ number, Moderate number ∧
      ofInt value = signed (value < 0) (single.encode number) ∧
      ∃ whole : ℕ, number.value = whole ∧ 0 < whole ∧ whole ≤ 2 ^ 32 := by
  have positive : (1 : ℚ) ≤ value.natAbs := by
    exact_mod_cast Int.natAbs_pos.mpr nonzero
  have small : (value.natAbs : ℚ) ≤ 2 ^ 31 := by exact_mod_cast small
  have whole : (value.natAbs : ℚ) / (1 : ℕ) = value.natAbs := by
    rw [Nat.cast_one, div_one]
  obtain ⟨number, moderate, rounds, known⟩ :=
    exists_ofQuotient value.natAbs Nat.one_pos
      (by rw [whole]; linarith) (by rw [whole]; linarith)
  rw [whole] at rounds
  obtain ⟨whole, value_⟩ := rounds.exists_whole
  have some_ : 0 < number.significand :=
    lt_of_lt_of_le (by decide) moderate.normal
  have above := (moderate.value_bounds).1
  have below := rounds.le_twice some_
  rw [value_] at above below
  refine ⟨number, moderate, known _, whole, value_, ?_, ?_⟩
  · have above : (0 : ℚ) < whole := lt_of_lt_of_le (by norm_num) above
    exact_mod_cast above
  · have below : (whole : ℚ) ≤ 2 ^ 32 := by linarith
    exact_mod_cast below

theorem scaled_divide {value : ℤ} (small : value.natAbs ≤ 2 ^ 31)
    {places : ℕ} (few : places ≤ 2) :
    ((ofInt value).divide (10 ^ places)).Scaled := by
  by_cases nonzero : value = 0
  · rw [nonzero, ofInt_zero_divide]
    exact .zero
  · obtain ⟨number, moderate, known, whole, value_, positive, large⟩ :=
      exists_ofInt nonzero small
    have tens : 0 < 10 ^ places := Nat.pow_pos (by decide)
    have ratio : (number.quotient.1 : ℚ) /
        (number.quotient.2 * 10 ^ places : ℕ) = whole / 10 ^ places := by
      rw [← value_, ← number.quotient_value, div_div]
      push_cast
      rfl
    have hundred : (10 : ℚ) ^ places ≤ 10 ^ 2 :=
      pow_le_pow_right₀ (by norm_num) few
    have one : (1 : ℚ) ≤ 10 ^ places := one_le_pow₀ (by norm_num)
    have least : (1 : ℚ) ≤ whole := by exact_mod_cast positive
    have most : (whole : ℚ) ≤ 2 ^ 32 := by exact_mod_cast large
    obtain ⟨result, size, rounds, divided⟩ := exists_ofQuotient
      number.quotient.1 (Nat.mul_pos number.quotient_pos tens)
      (by
        rw [ratio, div_le_div_iff₀ (by norm_num) (by positivity)]
        linarith)
      (by
        rw [ratio]
        exact (div_le_self (by positivity) one).trans most)
    rw [known, divide_signed moderate.canonical, divided]
    rw [ratio] at rounds
    exact .moderate _ few size rounds

end Single

namespace MeterFunction

/-- Every measurement of a reply is one that replies are scaled to. -/
theorem decode_scaled {function : MeterFunction} {reply : Bytes}
    {value : Single} (decoded : function.decode reply = .ok (.measured value)) :
    value.Scaled := by
  obtain ⟨_, made⟩ := decode_eq_ok_iff.mp decoded
  have scaled : ∀ places : ℕ, places ≤ 2 → ∀ number : ℤ,
      number.natAbs ≤ 2 ^ 31 →
        ((Single.ofInt number).divide (10 ^ places)).Scaled :=
    fun places few number small => Single.scaled_divide small few
  have none_ := scaled 0 (by decide)
  have one := scaled 1 (by decide)
  have two := scaled 2 (by decide)
  norm_num only at none_ one two
  have short : function.decoding.width ≤ 4 →
      (signedOfNat function.decoding.width
        (function.decoding.octets reply).toNatBig).natAbs ≤ 2 ^ 31 :=
    natAbs_signedOfNat (List.length_take_le _ _)
  cases function <;> cases made
  · exact two _ (short (by decide))
  · exact none_ _ (short (by decide))
  · exact one _ (short (by decide))
  · exact one _ (short (by decide))

end MeterFunction

end MeterLine
