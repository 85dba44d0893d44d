import Mathlib.Algebra.Order.Floor.Semifield
import MeterLine.Proofs.Number.Rounding

/-!
# What the shortest form is

The search goes from coarse decimal grids to finer ones.  On every grid the two
neighbours of the number are enough: if any point of the grid is rounded to the
number, one of them is.  So the result is rounded to the number, and its grid
is no finer than any that has such a point.
-/

namespace MeterLine

namespace RoundingInterval

theorem contains_iff (interval : RoundingInterval) (number : Decimal) :
    interval.contains number = true ↔
      if interval.closed then
        interval.lower * (2 : ℚ) ^ interval.exponent ≤ number.value ∧
          number.value ≤ interval.upper * 2 ^ interval.exponent
      else
        interval.lower * (2 : ℚ) ^ interval.exponent < number.value ∧
          number.value < interval.upper * 2 ^ interval.exponent := by
  have scale : (0 : ℚ) < 2 ^ interval.exponent := by positivity
  have unit : (0 : ℚ) < (BinaryFormat.inUnits number.quotient.1
      number.quotient.2 interval.exponent).2 := by
    exact_mod_cast BinaryFormat.inUnits_pos _ number.quotient_pos _
  have ratio := BinaryFormat.inUnits_ratio number.quotient.1
    number.quotient.2 interval.exponent
  rw [number.quotient_value, div_eq_div_iff unit.ne' scale.ne'] at ratio
  unfold contains
  split
  case h_1 numerator denominator known =>
      simp only [known] at unit ratio
      generalize BinaryFormat.inUnits numerator denominator
        interval.exponent = counted at unit ratio ⊢
      obtain ⟨scaled, size⟩ := counted
      simp only at unit ratio ⊢
      have above : ∀ bound : ℕ, bound * size ≤ scaled ↔
          bound * (2 : ℚ) ^ interval.exponent ≤ number.value := by
        intro bound
        rw [← mul_le_mul_iff_of_pos_right unit, ← ratio, mul_right_comm,
          mul_le_mul_iff_of_pos_right scale]
        norm_cast
      have below : ∀ bound : ℕ, scaled ≤ bound * size ↔
          number.value ≤ bound * (2 : ℚ) ^ interval.exponent := by
        intro bound
        rw [← mul_le_mul_iff_of_pos_right unit, ← ratio, mul_right_comm,
          mul_le_mul_iff_of_pos_right scale]
        norm_cast
      have strictlyAbove := fun bound => lt_iff_lt_of_le_iff_le (below bound)
      have strictlyBelow := fun bound => lt_iff_lt_of_le_iff_le (above bound)
      split <;> simp only [Bool.decide_and, Bool.and_eq_true,
        decide_eq_true_eq]
      · exact and_congr (above _) (below _)
      · exact and_congr (strictlyAbove _) (strictlyBelow _)

section Format

variable {format : BinaryFormat} {number : Dyadic}

theorem of_upper (format : BinaryFormat) (number : Dyadic) :
    (of format number).upper * (2 : ℚ) ^ (of format number).exponent =
      (number.significand + 1 / 2) * 2 ^ number.exponent := by
  simp only [of, zpow_sub₀ (by norm_num : (2 : ℚ) ≠ 0)]
  push_cast
  ring

theorem lower_value (positive : 0 < number.significand) {part : ℕ}
    (few : part ≤ 2)
    (known : (of format number).lower = 4 * number.significand - part) :
    (of format number).lower * (2 : ℚ) ^ (of format number).exponent =
      (number.significand - part / 4) * 2 ^ number.exponent := by
  rw [known, Nat.cast_sub (by omega)]
  simp only [of, zpow_sub₀ (by norm_num : (2 : ℚ) ≠ 0)]
  push_cast
  ring

theorem of_lower (positive : 0 < number.significand)
    (wide : ¬format.narrow number) :
    (of format number).lower * (2 : ℚ) ^ (of format number).exponent =
      (number.significand - 1 / 2) * 2 ^ number.exponent := by
  have known : (of format number).lower = 4 * number.significand - 2 := by
    simp only [of, decide_eq_true_eq]
    exact congrArg _ (if_neg wide)
  rw [lower_value positive (Nat.le_refl 2) known]
  norm_num

theorem of_lower_narrow (positive : 0 < number.significand)
    (narrow : format.narrow number) :
    (of format number).lower * (2 : ℚ) ^ (of format number).exponent =
      (number.significand - 1 / 4) * 2 ^ number.exponent := by
  have known : (of format number).lower = 4 * number.significand - 1 := by
    simp only [of, decide_eq_true_eq]
    exact congrArg _ (if_pos narrow)
  rw [lower_value positive (Nat.le_succ 1) known]
  norm_num

theorem contains_of (precise : 2 ≤ format.precision)
    (canonical : format.Canonical number)
    (positive : 0 < number.significand) (decimal : Decimal) :
    (of format number).contains decimal = true ↔
      format.RoundsTo decimal.value number := by
  have unit : (0 : ℚ) < 2 ^ number.exponent := by positivity
  have closed : (of format number).closed = true ↔
      number.significand % 2 = 0 := decide_eq_true_iff
  rw [contains_iff, of_upper, if_congr closed rfl rfl]
  by_cases narrow : format.narrow number
  · have even : number.significand % 2 = 0 := by
      rw [narrow.1]
      exact Nat.two_pow_mod_two_eq_zero.mpr (by omega)
    rw [of_lower_narrow positive narrow, if_pos even]
    constructor
    · rintro ⟨lower, upper⟩
      refine ⟨canonical, upper, le_trans ?_ lower, fun _ => lower,
        fun _ => even⟩
      apply mul_le_mul_of_nonneg_right _ unit.le
      linarith
    · intro rounds
      exact ⟨rounds.narrow narrow, rounds.upper⟩
  · rw [of_lower positive narrow]
    by_cases even : number.significand % 2 = 0
    · rw [if_pos even]
      constructor
      · rintro ⟨lower, upper⟩
        exact ⟨canonical, upper, lower, fun power => (narrow power).elim,
          fun _ => even⟩
      · intro rounds
        exact ⟨rounds.lower, rounds.upper⟩
    · rw [if_neg even]
      constructor
      · rintro ⟨lower, upper⟩
        refine ⟨canonical, upper.le, lower.le,
          fun power => (narrow power).elim, ?_⟩
        rintro (tie | tie)
        · exact (upper.ne tie).elim
        · exact (lower.ne' tie).elim
      · intro rounds
        constructor
        · apply lt_of_le_of_ne rounds.lower
          intro tie
          exact even (rounds.even (Or.inr tie.symm))
        · apply lt_of_le_of_ne rounds.upper
          intro tie
          exact even (rounds.even (Or.inl tie))

end Format

end RoundingInterval

theorem length_toDigits_bounds {value : ℕ} (positive : 0 < value) :
    10 ^ ((Nat.toDigits 10 value).length - 1) ≤ value ∧
      value < 10 ^ (Nat.toDigits 10 value).length := by
  have some_ : 0 < (Nat.toDigits 10 value).length := Nat.length_toDigits_pos
  constructor
  · rcases Nat.eq_zero_or_pos ((Nat.toDigits 10 value).length - 1) with
      single | several
    · rw [single]
      exact positive
    · apply Nat.le_of_not_lt
      rw [← Nat.length_toDigits_le_iff (by decide) several]
      omega
  · exact (Nat.length_toDigits_le_iff (by decide) some_).mp (Nat.le_refl _)

theorem Decimal.value_bounds {number : Decimal} (positive : 0 < number.digits) :
    (10 : ℚ) ^ (number.pointPosition - 1) ≤ number.value ∧
      number.value < 10 ^ number.pointPosition := by
  obtain ⟨low, high⟩ := length_toDigits_bounds positive
  have some_ : 0 < (Nat.toDigits 10 number.digits).length :=
    Nat.length_toDigits_pos
  have unit : (0 : ℚ) < 10 ^ number.exponent := by positivity
  simp only [pointPosition, digitChars, value]
  generalize (Nat.toDigits 10 number.digits).length = length at *
  constructor
  · have shift : (length : ℤ) + number.exponent - 1 =
        (length - 1 : ℕ) + number.exponent := by omega
    rw [shift, zpow_add₀ (by norm_num)]
    apply mul_le_mul_of_nonneg_right _ unit.le
    exact_mod_cast low
  · rw [zpow_add₀ (by norm_num)]
    apply mul_lt_mul_of_pos_right _ unit
    exact_mod_cast high

namespace Shortest

variable {numerator denominator : ℕ}

theorem pow_le_scaled (denominates : 0 < denominator) (reach count : ℕ) :
    10 ^ count ≤ numerator * 10 ^ reach / denominator ↔
      (10 : ℚ) ^ ((count : ℤ) - reach) ≤ numerator / denominator := by
  have unit : (0 : ℚ) < denominator := by exact_mod_cast denominates
  rw [Nat.le_div_iff_mul_le denominates, zpow_sub₀ (by norm_num),
    div_le_div_iff₀ (by positivity) unit]
  norm_cast

theorem places_bounds {reach : ℕ} (denominates : 0 < denominator)
    (enough : (10 : ℚ) ^ (-reach : ℤ) ≤ numerator / denominator) :
    (10 : ℚ) ^ (places reach numerator denominator - 1) ≤
        numerator / denominator ∧
      (numerator : ℚ) / denominator <
        10 ^ places reach numerator denominator := by
  have positive : 0 < numerator * 10 ^ reach / denominator := by
    rw [← zero_sub, ← Nat.cast_zero,
      ← pow_le_scaled denominates reach 0] at enough
    exact enough
  obtain ⟨low, high⟩ := length_toDigits_bounds positive
  have some_ : 0 < (Nat.toDigits 10
      (numerator * 10 ^ reach / denominator)).length :=
    Nat.length_toDigits_pos
  simp only [places, Nat.pow_eq]
  generalize (Nat.toDigits 10
    (numerator * 10 ^ reach / denominator)).length = length at *
  constructor
  · rw [pow_le_scaled denominates] at low
    convert low using 2
    omega
  · rw [← not_le, ← pow_le_scaled denominates]
    exact Nat.not_le_of_lt high

theorem grid_bounds (numerator : ℕ) (denominates : 0 < denominator)
    (exponent : ℤ) :
    let floor := numerator * Nat.pow 10 (-exponent).toNat /
      (denominator * Nat.pow 10 exponent.toNat)
    Decimal.value ⟨floor, exponent⟩ ≤ numerator / denominator ∧
      (numerator : ℚ) / denominator < Decimal.value ⟨floor + 1, exponent⟩ := by
  intro floor
  have scale := pow_div_pow (by decide : 0 < 10) exponent
  have unit : (0 : ℚ) < denominator := by exact_mod_cast denominates
  have fine : 0 < Nat.pow 10 (-exponent).toNat := Nat.pow_pos (by decide)
  have coarse : 0 < Nat.pow 10 exponent.toNat := Nat.pow_pos (by decide)
  have low : (floor : ℚ) * (denominator * Nat.pow 10 exponent.toNat : ℕ) ≤
      (numerator * Nat.pow 10 (-exponent).toNat : ℕ) := by
    exact_mod_cast Nat.div_mul_le_self _ _
  have high : ((numerator * Nat.pow 10 (-exponent).toNat : ℕ) : ℚ) <
      (denominator * Nat.pow 10 exponent.toNat : ℕ) * (floor + 1 : ℕ) := by
    exact_mod_cast Nat.lt_mul_div_succ _ (Nat.mul_pos denominates coarse)
  have fine : (0 : ℚ) < (Nat.pow 10 (-exponent).toNat : ℕ) := by
    exact_mod_cast fine
  have ten : ((10 : ℕ) : ℚ) = 10 := by norm_num
  rw [ten] at scale
  simp only [Decimal.value, ← scale]
  rw [mul_div_assoc', mul_div_assoc', div_le_div_iff₀ fine unit,
    div_lt_div_iff₀ unit fine]
  push_cast at low high ⊢
  constructor <;> linarith

theorem onGrid_some {tie : Tie} {interval : RoundingInterval} {exponent : ℤ}
    {decimal : Decimal}
    (found : onGrid tie interval numerator denominator exponent =
      some decimal) :
    interval.contains decimal = true ∧ decimal.exponent = exponent := by
  simp only [onGrid] at found
  split at found
  case h_1 below above =>
      obtain rfl := Option.some.inj found
      split
      case isTrue => exact ⟨below, rfl⟩
      case isFalse => exact ⟨above, rfl⟩
  case h_2 below above =>
      obtain rfl := Option.some.inj found
      exact ⟨below, rfl⟩
  case h_3 below above =>
      obtain rfl := Option.some.inj found
      exact ⟨above, rfl⟩
  case h_4 => cases found

variable {format : BinaryFormat} {number : Dyadic}

theorem exists_onGrid (tie : Tie) (precise : 2 ≤ format.precision)
    (positive : 0 < number.significand) (denominates : 0 < denominator)
    (itself : format.RoundsTo ((numerator : ℚ) / denominator) number)
    {point : Decimal} (rounds : format.RoundsTo point.value number) :
    ∃ decimal, onGrid tie (RoundingInterval.of format number) numerator
      denominator point.exponent = some decimal := by
  obtain ⟨low, high⟩ := grid_bounds numerator denominates point.exponent
  have inside : ∀ decimal : Decimal, format.RoundsTo decimal.value number →
      (RoundingInterval.of format number).contains decimal = true :=
    fun decimal =>
      (RoundingInterval.contains_of precise itself.canonical positive
        decimal).mpr
  simp only [onGrid]
  generalize numerator * Nat.pow 10 (-point.exponent).toNat /
    (denominator * Nat.pow 10 point.exponent.toNat) = floor at low high ⊢
  have unit : (0 : ℚ) < 10 ^ point.exponent := by positivity
  -- The number is rounded to itself, so whatever is between it and the point
  -- of the grid is rounded to it as well.
  rcases Nat.lt_or_ge floor point.digits with more | less
  · have above := inside ⟨floor + 1, point.exponent⟩
      (itself.between rounds high.le (by
        apply mul_le_mul_of_nonneg_right _ unit.le
        exact_mod_cast more))
    rw [above]
    split <;> first | exact ⟨_, rfl⟩ | contradiction
  · have below := inside ⟨floor, point.exponent⟩
      (rounds.between itself (by
        apply mul_le_mul_of_nonneg_right _ unit.le
        exact_mod_cast less) low)
    rw [below]
    split <;> first | exact ⟨_, rfl⟩ | contradiction

end Shortest

namespace Decimal

theorem strip_spec (fuel : ℕ) (number : Decimal) :
    (number.strip fuel).value = number.value ∧
      number.exponent ≤ (number.strip fuel).exponent := by
  induction fuel generalizing number with
  | zero => exact ⟨rfl, Int.le_refl _⟩
  | succ fuel induction =>
      rw [strip]
      split
      case isTrue zero =>
          obtain ⟨value, exponent⟩ :=
            induction ⟨number.digits / 10, number.exponent + 1⟩
          constructor
          · have whole : ((number.digits / 10 : ℕ) : ℚ) * 10 =
                number.digits := by
              exact_mod_cast Nat.div_mul_cancel (Nat.dvd_of_mod_eq_zero zero.2)
            rw [value, Decimal.value, Decimal.value, ← whole,
              zpow_add_one₀ (by norm_num)]
            ring
          · simp only at exponent
            omega
      case isFalse => exact ⟨rfl, Int.le_refl _⟩

end Decimal

namespace Shortest

variable {format : BinaryFormat} {number : Dyadic}

/-- The search ends on a grid that is no finer than one it comes by and that has
a point which is rounded to the number. -/
theorem search_spec (tie : Tie) (precise : 2 ≤ format.precision)
    (positive : 0 < number.significand) {numerator denominator : ℕ}
    (denominates : 0 < denominator)
    (itself : format.RoundsTo ((numerator : ℚ) / denominator) number)
    {target : Decimal} (rounds : format.RoundsTo target.value number)
    {point : ℤ} {fuel count : ℕ} (begun : target.exponent ≤ point - count)
    (enough : point - count < target.exponent + fuel) :
    format.RoundsTo (search tie (RoundingInterval.of format number) numerator
        denominator point fuel count).value number ∧
      target.exponent ≤ (search tie (RoundingInterval.of format number)
        numerator denominator point fuel count).exponent := by
  induction fuel generalizing count with
  | zero => omega
  | succ fuel induction =>
      rw [search]
      split
      case h_1 decimal found =>
          obtain ⟨inside, exponent⟩ := onGrid_some found
          obtain ⟨value, coarser⟩ := decimal.strip_spec (count + 1)
          rw [RoundingInterval.contains_of precise itself.canonical positive]
            at inside
          rw [value]
          exact ⟨inside, by omega⟩
      case h_2 none_ =>
          apply induction
          · have other : target.exponent ≠ point - count := by
              intro same
              obtain ⟨decimal, found⟩ := exists_onGrid tie precise positive
                denominates itself rounds
              rw [same, none_] at found
              cases found
            push_cast
            omega
          · push_cast at enough ⊢
            omega

theorem least_le_value (fractions : format.least ≤ 0)
    (canonical : format.Canonical number)
    (positive : 0 < number.significand) :
    (10 : ℚ) ^ (-(-format.least).toNat : ℤ) ≤ number.value := by
  have one : (1 : ℚ) ≤ number.significand := by exact_mod_cast positive
  have reach : (-(-format.least).toNat : ℤ) = format.least := by omega
  rw [Dyadic.value]
  calc
    (10 : ℚ) ^ (-(-format.least).toNat : ℤ)
        ≤ 2 ^ (-(-format.least).toNat : ℤ) := by
      rw [zpow_neg, zpow_neg, inv_le_inv₀ (by positivity) (by positivity)]
      exact pow_le_pow_left₀ (by norm_num) (by norm_num) _
    _ = 2 ^ format.least := by rw [reach]
    _ ≤ 2 ^ number.exponent :=
      zpow_le_zpow_right₀ (by norm_num) canonical.least
    _ ≤ number.significand * 2 ^ number.exponent :=
      le_mul_of_one_le_left (by positivity) one

/-- The shortest form is rounded to the number, and has no more places than
another form that is and that is not too fine to be tried. -/
theorem decimal_spec (tie : Tie) (precise : 2 ≤ format.precision)
    (fractions : format.least ≤ 0) (canonical : format.Canonical number)
    (positive : 0 < number.significand) {target : Decimal}
    (rounds : format.RoundsTo target.value number)
    (coarse : 10 ^ target.exponent ≤ number.value)
    (fine : number.value < 10 ^ (target.exponent + enough format)) :
    format.RoundsTo (decimal tie format number).value number ∧
      target.exponent ≤ (decimal tie format number).exponent := by
  have itself := canonical.roundsTo
  have least := least_le_value fractions canonical positive
  rw [← number.quotient_value] at itself least coarse fine
  obtain ⟨low, high⟩ := places_bounds number.quotient_pos least
  have begun := lt_of_le_of_lt coarse high
  have ends := lt_of_le_of_lt low fine
  rw [zpow_lt_zpow_iff_right₀ (by norm_num)] at begun ends
  have first : target.exponent ≤ places (-format.least).toNat
      number.quotient.1 number.quotient.2 - (1 : ℕ) := by
    push_cast
    omega
  have last : places (-format.least).toNat number.quotient.1
      number.quotient.2 - (1 : ℕ) < target.exponent + enough format := by
    push_cast
    omega
  exact search_spec tie precise positive number.quotient_pos itself rounds
    first last

end Shortest

end MeterLine
