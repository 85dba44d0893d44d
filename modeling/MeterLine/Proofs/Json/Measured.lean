import MeterLine.Proofs.Json.Decimals
import MeterLine.Proofs.Json.ReadBack
import MeterLine.Proofs.Number.Bits
import MeterLine.Proofs.Number.Moderate

/-!
# Measurements in documents

A measurement is written with the fewest digits that single precision needs and
read as a number of double precision.  What is read is not the measurement, but
it is rounded to it.
-/

namespace MeterLine.Json

theorem Pointed.exists_reads {digits places : List Char} {value : ℚ}
    (pointed : Pointed digits places value) (positive : 0 < value)
    (small : value < 2 ^ (34 : ℤ)) (few : places.length ≤ 3) :
    ∃ read, BinaryFormat.double.RoundsTo value read ∧
      ∀ {rest : List Char}, Breaks rest → ∀ negative : Bool,
        readUnsigned negative (digits ++ '.' :: places ++ rest) =
          some (.double negative read, rest) := by
  obtain ⟨leading, some_, digit, known⟩ := pointed
  have tens : (0 : ℚ) < 10 ^ places.length := by positivity
  have thousand : (10 : ℚ) ^ places.length ≤ 10 ^ 3 :=
    pow_le_pow_right₀ (by norm_num) few
  have scaled : (Nat.ofDigitChars 10 (digits ++ places) 0 : ℚ) =
      value * 10 ^ places.length := by
    rw [← known, div_mul_cancel₀ _ tens.ne']
  have above : 0 < Nat.ofDigitChars 10 (digits ++ places) 0 := by
    have above := mul_pos positive tens
    rw [← scaled] at above
    exact_mod_cast above
  have below : Nat.ofDigitChars 10 (digits ++ places) 0 < 2 ^ 53 := by
    have below : (Nat.ofDigitChars 10 (digits ++ places) 0 : ℚ) < 2 ^ 53 := by
      rw [scaled]
      calc
        value * 10 ^ places.length ≤ value * 10 ^ 3 :=
          mul_le_mul_of_nonneg_left thousand positive.le
        _ < 2 ^ (34 : ℤ) * 10 ^ 3 :=
          mul_lt_mul_of_pos_right small (by norm_num)
        _ < 2 ^ 53 := by norm_num
    exact_mod_cast below
  obtain ⟨read, double, rounds⟩ := exists_toDouble above below
    (List.length_pos_of_ne_nil some_) (few.trans (by decide))
  rw [known] at rounds
  refine ⟨read, rounds, ?_⟩
  intro rest breaks negative
  rw [readUnsigned_point leading some_ digit (below.trans (by decide)) breaks,
    double]
  rfl

theorem Number.readsAs_of_unsigned {written read : Number} {negative : Bool}
    {first : Char} {digits : List Char}
    (known : written.chars =
      (if negative then ['-'] else []) ++ first :: digits)
    (digit : first.isDigit = true)
    (reads : ∀ {rest : List Char}, Breaks rest →
      readUnsigned negative (first :: digits ++ rest) = some (read, rest)) :
    written.ReadsAs read := by
  cases negative with
  | true =>
      refine ⟨⟨'-', first :: digits, known, Or.inr rfl⟩, ?_⟩
      intro rest breaks
      rw [known]
      exact reads breaks
  | false =>
      refine ⟨⟨first, digits, known, Or.inl digit⟩, ?_⟩
      intro rest breaks
      have unsigned := reads breaks
      simp only [known, List.nil_append, Bool.false_eq_true, if_false]
      unfold readNumber
      split
      case h_1 same =>
          obtain ⟨rfl, _⟩ := List.cons.inj same
          cases digit
      case h_2 => exact unsigned

section Moderate

open BinaryFormat

variable {number : Dyadic} {digits places : ℕ}

/-- A number of the size of readings is written around a plain point. -/
theorem isPlain_decimal {decimal : Decimal} (positive : 0 < decimal.digits)
    (above : 2 ^ (-9 : ℤ) ≤ decimal.value)
    (below : decimal.value < 2 ^ (34 : ℤ)) :
    Single.document.isPlain decimal.pointPosition = true := by
  obtain ⟨low, high⟩ := Decimal.value_bounds positive
  have least : (10 : ℚ) ^ (-3 : ℤ) < 10 ^ decimal.pointPosition := by
    apply lt_of_lt_of_le _ (above.trans high.le)
    norm_num
  have most : (10 : ℚ) ^ (decimal.pointPosition - 1) < 10 ^ (11 : ℤ) := by
    apply lt_trans (lt_of_le_of_lt low below)
    norm_num
  rw [zpow_lt_zpow_iff_right₀ (by norm_num)] at least most
  simp only [Layout.isPlain, Single.document, Bool.and_eq_true,
    decide_eq_true_eq]
  omega

theorem exists_documentChars (moderate : Moderate number)
    (few : places ≤ 2)
    (rounds : single.RoundsTo ((digits : ℚ) / 10 ^ places) number) :
    ∃ before behind value, Single.document.chars
        (Shortest.decimal Single.document.tie single number) =
          before ++ '.' :: behind ∧
      Pointed before behind value ∧ behind.length ≤ 3 ∧ 0 < value ∧
      value < 2 ^ (34 : ℤ) ∧ single.RoundsTo value number := by
  obtain ⟨near, least⟩ :=
    moderate.decimal_spec few rounds Single.document.tie
  obtain ⟨low, high⟩ := moderate.value_bounds
  have some_ : 0 < number.significand :=
    lt_of_lt_of_le (by decide) moderate.normal
  generalize Shortest.decimal Single.document.tie single number = decimal at *
  have above : 2 ^ (-9 : ℤ) ≤ decimal.value := by
    have half := near.le_twice some_
    norm_num at low ⊢
    linarith
  have below : decimal.value < 2 ^ (34 : ℤ) := by
    have twice := near.twice_le some_
    norm_num at high ⊢
    linarith
  have positive : 0 < decimal.value := lt_of_lt_of_le (by norm_num) above
  have nonzero : 0 < decimal.digits := by
    apply Nat.pos_of_ne_zero
    intro zero
    rw [Decimal.value, zero, Nat.cast_zero, zero_mul] at positive
    exact lt_irrefl 0 positive
  obtain ⟨before, behind, text, pointed, length⟩ :=
    exists_pointed Single.document rfl nonzero
  refine ⟨before, behind, decimal.value, ?_, pointed, by omega, positive,
    below, near⟩
  rw [Layout.chars, if_pos (isPlain_decimal nonzero above below), text]

theorem chars_signed (canonical : single.Canonical number)
    (nonzero : number.significand ≠ 0) (negative : Bool) :
    (Number.single (Single.signed negative (single.encode number))).chars =
      (if negative then ['-'] else []) ++ Single.document.chars
        (Shortest.decimal Single.document.tie single number) := by
  have sign := Single.negative_signed (Single.encode_lt canonical) negative
  simp only [Number.chars, singleChars, Single.magnitude_signed canonical,
    Single.finiteChars, sign, if_neg nonzero]

/-- What is read for a measurement is rounded to it. -/
theorem exists_readsAs (moderate : Moderate number) (few : places ≤ 2)
    (rounds : single.RoundsTo ((digits : ℚ) / 10 ^ places) number)
    (negative : Bool) :
    ∃ read, single.RoundsTo read.value number ∧
      (Number.single (Single.signed negative (single.encode number))).ReadsAs
        (.double negative read) := by
  obtain ⟨before, behind, value, text, pointed, length, positive, small,
    near⟩ := exists_documentChars moderate few rounds
  obtain ⟨read, double, reads⟩ := pointed.exists_reads positive small length
  have nonzero : number.significand ≠ 0 :=
    (lt_of_lt_of_le (by decide) moderate.normal).ne'
  refine ⟨read, ?_, ?_⟩
  · have known := pointed.value
    rw [← known] at near double
    exact near.through length moderate double
  · obtain ⟨first, more, rfl⟩ :=
      List.exists_cons_of_ne_nil pointed.leading.nonempty
    have written := chars_signed moderate.canonical nonzero negative
    rw [text] at written
    exact Number.readsAs_of_unsigned written
      (pointed.leading.digit first List.mem_cons_self)
      fun breaks => reads breaks negative

theorem readsAs_zero (negative : Bool) :
    (Number.single (Single.signed negative 0)).ReadsAs
      (.double negative ⟨0, double.least⟩) := by
  have zero : Leading ['0'] := leading_toDigits 0
  have written : (Number.single (Single.signed negative 0)).chars =
      (if negative then ['-'] else []) ++ '0' :: ['.', '0'] := by
    cases negative <;> rfl
  apply Number.readsAs_of_unsigned written rfl
  intro rest breaks
  exact readUnsigned_point zero zero.nonempty zero.digit (by decide) breaks
    negative

end Moderate

end MeterLine.Json
