import MeterLine.Number.Layout
import MeterLine.Proofs.Json.Numerals
import MeterLine.Proofs.Number.Search

/-!
# Decimal numbers as numerals

A decimal number that is written around a plain point is read as the quotient it
stands for, rounded to double precision once: its digits are a whole number
that double precision holds exactly, and so is the power of ten they are divided
by.
-/

namespace MeterLine.Json

/-- Digits before and behind a point, and the number that they stand for. -/
structure Pointed (digits places : List Char) (value : ℚ) : Prop where
  leading : Leading digits
  nonempty : places ≠ []
  digit : ∀ character ∈ places, character.isDigit = true
  value : (Nat.ofDigitChars 10 (digits ++ places) 0 : ℚ) /
    10 ^ places.length = value

theorem toDigits_append_zeros {value : ℕ} (positive : 0 < value)
    (count : ℕ) :
    Nat.toDigits 10 value ++ List.replicate count '0' =
      Nat.toDigits 10 (value * 10 ^ count) := by
  induction count with
  | zero => simp
  | succ count induction =>
      have more : 0 < value * 10 ^ count :=
        Nat.mul_pos positive (Nat.pow_pos (by decide))
      rw [List.replicate_succ', ← List.append_assoc, induction,
        ← Nat.toDigits_zero 10,
        Nat.toDigits_append_toDigits (by decide) more (by decide),
        Nat.add_zero, pow_succ, Nat.mul_comm 10, Nat.mul_assoc]

section Layout

variable {number : Decimal}

theorem cut_value {digits places : List Char}
    (whole : Nat.ofDigitChars 10 (digits ++ places) 0 = number.digits)
    (length : (places.length : ℤ) = -number.exponent) :
    (Nat.ofDigitChars 10 (digits ++ places) 0 : ℚ) / 10 ^ places.length =
      number.value := by
  have exponent : number.exponent = -(places.length : ℤ) := by omega
  rw [whole, Decimal.value, exponent, zpow_neg, zpow_natCast, div_eq_mul_inv]

theorem pointed_whole (positive : 0 < number.digits)
    (whole : 0 ≤ number.exponent) :
    Pointed (number.digitChars ++ List.replicate number.exponent.toNat '0')
      ['0'] number.value := by
  have zero : (['0'] : List Char) = List.replicate 1 '0' := rfl
  have exponent : (number.exponent.toNat : ℤ) = number.exponent := by omega
  rw [Decimal.digitChars, toDigits_append_zeros positive]
  refine ⟨leading_toDigits _, List.cons_ne_nil _ _, (leading_toDigits 0).digit,
    ?_⟩
  rw [Nat.ofDigitChars_append, Nat.ofDigitChars_ten_toDigits, zero,
    Nat.ofDigitChars_replicate_zero, Decimal.value]
  generalize number.exponent.toNat = shift at exponent ⊢
  rw [← exponent, zpow_natCast]
  push_cast
  field_simp
  simp

theorem length_drop (inside : 0 < number.pointPosition)
    (fraction : number.exponent < 0) :
    ((number.digitChars.drop number.pointPosition.toNat).length : ℤ) =
      -number.exponent := by
  rw [List.length_drop]
  simp only [Decimal.pointPosition] at inside ⊢
  omega

theorem length_fill (before : number.pointPosition ≤ 0) :
    ((List.replicate (-number.pointPosition).toNat '0' ++
      number.digitChars).length : ℤ) = -number.exponent := by
  rw [List.length_append, List.length_replicate]
  simp only [Decimal.pointPosition] at before ⊢
  omega

theorem pointed_inside (inside : 0 < number.pointPosition)
    (fraction : number.exponent < 0) :
    Pointed (number.digitChars.take number.pointPosition.toNat)
      (number.digitChars.drop number.pointPosition.toNat) number.value := by
  have leading := leading_toDigits number.digits
  have both := List.take_append_drop number.pointPosition.toNat
    number.digitChars
  have length := length_drop inside fraction
  refine ⟨⟨?_, ?_, ?_⟩, ?_, ?_, ?_⟩
  · intro none_
    rw [List.take_eq_nil_iff] at none_
    rcases none_ with none_ | none_
    · omega
    · exact leading.nonempty none_
  · intro character member
    exact leading.digit character (List.mem_of_mem_take member)
  · intro long
    rw [List.length_take] at long
    rw [List.head?_take, if_neg (by omega)]
    exact leading.nonzero (by simp only [Decimal.digitChars] at long; omega)
  · intro none_
    rw [none_] at length
    simp only [List.length_nil] at length
    omega
  · intro character member
    exact leading.digit character (List.mem_of_mem_drop member)
  · apply cut_value _ length
    rw [both, Decimal.digitChars, Nat.ofDigitChars_ten_toDigits]

theorem pointed_before (before : number.pointPosition ≤ 0) :
    Pointed ['0'] (List.replicate (-number.pointPosition).toNat '0' ++
      number.digitChars) number.value := by
  have leading := leading_toDigits number.digits
  refine ⟨leading_toDigits 0, ?_, ?_, ?_⟩
  · intro none_
    exact leading.nonempty (List.append_eq_nil_iff.mp none_).2
  · intro character member
    rcases List.mem_append.mp member with zero | digit
    · rw [List.eq_of_mem_replicate zero]
      rfl
    · exact leading.digit character digit
  · apply cut_value _ (length_fill before)
    rw [List.singleton_append, Nat.ofDigitChars_cons,
      Nat.ofDigitChars_append, Nat.ofDigitChars_replicate_zero]
    simp [Decimal.digitChars]

theorem exists_pointed (layout : Layout) (keeps : layout.wholePoint = true)
    (positive : 0 < number.digits) :
    ∃ digits places, layout.plainChars number = digits ++ '.' :: places ∧
      Pointed digits places number.value ∧
      (places.length : ℤ) = max 1 (-number.exponent) := by
  unfold Layout.plainChars
  simp only []
  split
  case isTrue whole =>
      refine ⟨_, _, rfl, pointed_whole positive whole, ?_⟩
      simp only [List.length_singleton]
      omega
  case isFalse fraction =>
      have fraction := Int.not_le.mp fraction
      have exponent : max 1 (-number.exponent) = -number.exponent := by omega
      rw [exponent]
      split
      case isTrue inside =>
          exact ⟨_, _, rfl, pointed_inside inside fraction,
            length_drop inside fraction⟩
      case isFalse before =>
          have before := Int.not_lt.mp before
          exact ⟨_, _, rfl, pointed_before before, length_fill before⟩

end Layout

theorem divideBy_quotient (left right : Dyadic) :
    divideBy left right =
      BinaryFormat.double.round (left.quotient.1 * right.quotient.2)
        (left.quotient.2 * right.quotient.1) := rfl

theorem exists_divideBy {left right : Dyadic} (positive : 0 < left.significand)
    (divides : 0 < right.significand)
    (small : left.value / right.value < 2 ^ (1000 : ℤ)) :
    ∃ read, divideBy left right = some read ∧
      BinaryFormat.double.RoundsTo (left.value / right.value) read := by
  have powers : ∀ number : Dyadic, 0 < number.significand →
      0 < number.quotient.1 := fun number some_ =>
    Nat.mul_pos some_ (Nat.pow_pos (by decide))
  have above : 0 < left.quotient.1 * right.quotient.2 :=
    Nat.mul_pos (powers left positive) right.quotient_pos
  have below : 0 < left.quotient.2 * right.quotient.1 :=
    Nat.mul_pos left.quotient_pos (powers right divides)
  have ratio : ((left.quotient.1 * right.quotient.2 : ℕ) : ℚ) /
      (left.quotient.2 * right.quotient.1 : ℕ) =
        left.value / right.value := by
    rw [← left.quotient_value, ← right.quotient_value, div_div_div_eq]
    push_cast
    rfl
  rw [divideBy_quotient, ← ratio]
  rw [← ratio] at small
  obtain ⟨read, known⟩ := BinaryFormat.exists_round .double above below
    (by decide) (small.trans (zpow_lt_zpow_right₀ (by norm_num) (by decide)))
  exact ⟨read, known,
    BinaryFormat.round_roundsTo (by decide) above below known⟩

/-- A quotient of whole numbers that double precision holds is rounded once. -/
theorem exists_toDouble {digits places : ℕ} (positive : 0 < digits)
    (small : digits < 2 ^ 53) (some_ : 0 < places) (few : places ≤ 15) :
    ∃ read, Significand.toDouble ⟨digits, -(places : ℤ)⟩ = some read ∧
      BinaryFormat.double.RoundsTo ((digits : ℚ) / 10 ^ places) read := by
  have power : 10 ^ places < 2 ^ 53 :=
    Nat.lt_of_le_of_lt (Nat.pow_le_pow_right (by decide) few) (by decide)
  have tens : 0 < 10 ^ places := Nat.pow_pos (by decide)
  obtain ⟨value, rounded, nonzero, exact_⟩ :=
    BinaryFormat.exists_round_whole .double (by decide) (by decide) (by decide)
      positive small
  obtain ⟨scale, scaled, above, known⟩ :=
    BinaryFormat.exists_round_whole .double (by decide) (by decide) (by decide)
      tens power
  -- The power of ten is one that is held, so there is one division.
  have once : (places - 1) / greatestPower = 0 :=
    Nat.div_eq_of_lt (by simp only [greatestPower]; omega)
  have division : Significand.toDouble ⟨digits, -(places : ℤ)⟩ =
      divideBy value scale := by
    simp only [Significand.toDouble, rounded, scaleDown, powerOfTen,
      Nat.pow_eq, Int.natAbs_neg, Int.natAbs_natCast, once, scaleDownFully,
      Option.bind_some, Nat.zero_mul, Nat.sub_zero, scaled, Option.getD_some,
      if_neg nonzero.ne']
    exact if_pos (by omega)
  have ratio : value.value / scale.value = digits / 10 ^ places := by
    rw [exact_, known]
    push_cast
    rfl
  rw [division, ← ratio]
  apply exists_divideBy nonzero above
  rw [ratio]
  calc
    (digits : ℚ) / 10 ^ places ≤ digits :=
      div_le_self (by positivity) (one_le_pow₀ (by norm_num))
    _ < 2 ^ 53 := by exact_mod_cast small
    _ < 2 ^ (1000 : ℤ) := by
      rw [← zpow_natCast]
      exact zpow_lt_zpow_right₀ (by norm_num) (by decide)

end MeterLine.Json
