import Mathlib.Algebra.Order.Field.Power
import Mathlib.Algebra.Order.Ring.Rat
import Mathlib.Tactic.FieldSimp
import Mathlib.Tactic.Linarith
import Mathlib.Tactic.NormNum
import Mathlib.Tactic.Positivity
import Mathlib.Tactic.Ring
import MeterLine.Number.Shortest

/-!
# What rounding comes to

A quotient is rounded to the number in whose rounding interval it lies, and
only to that one.  The statements are about rational numbers, so that they do
not depend on the numerator and the denominator by which a quotient is given.
-/

namespace MeterLine

def Dyadic.value (number : Dyadic) : ℚ :=
  number.significand * 2 ^ number.exponent

def Decimal.value (number : Decimal) : ℚ :=
  number.digits * 10 ^ number.exponent

theorem pow_div_pow {base : ℕ} (positive : 0 < base) (exponent : ℤ) :
    ((Nat.pow base exponent.toNat : ℕ) : ℚ) /
      (Nat.pow base (-exponent).toNat : ℕ) = (base : ℚ) ^ exponent := by
  have nonzero : (base : ℚ) ≠ 0 := by positivity
  obtain ⟨count, rfl | rfl⟩ := exponent.eq_nat_or_neg
  · simp
  · simp

theorem Dyadic.quotient_pos (number : Dyadic) : 0 < number.quotient.2 :=
  Nat.pow_pos (by decide)

theorem Dyadic.quotient_value (number : Dyadic) :
    (number.quotient.1 : ℚ) / number.quotient.2 = number.value := by
  have scale := pow_div_pow (by decide : 0 < 2) number.exponent
  simp only [quotient, value, Nat.cast_mul]
  rw [mul_div_assoc, scale]
  norm_num

theorem Decimal.quotient_pos (number : Decimal) : 0 < number.quotient.2 :=
  Nat.pow_pos (by decide)

theorem Decimal.quotient_value (number : Decimal) :
    (number.quotient.1 : ℚ) / number.quotient.2 = number.value := by
  have scale := pow_div_pow (by decide : 0 < 10) number.exponent
  simp only [quotient, value, Nat.cast_mul]
  rw [mul_div_assoc, scale]
  norm_num

namespace BinaryFormat

theorem inUnits_pos (numerator : ℕ) {denominator : ℕ}
    (positive : 0 < denominator) (exponent : ℤ) :
    0 < (inUnits numerator denominator exponent).2 :=
  Nat.mul_pos positive (Nat.pow_pos (by decide))

theorem inUnits_ratio (numerator denominator : ℕ) (exponent : ℤ) :
    ((inUnits numerator denominator exponent).1 : ℚ) /
        (inUnits numerator denominator exponent).2 =
      (numerator : ℚ) / denominator / 2 ^ exponent := by
  have scale := pow_div_pow (by decide : 0 < 2) exponent
  have positive : (0 : ℚ) < (Nat.pow 2 (-exponent).toNat : ℕ) := by
    exact_mod_cast Nat.pow_pos (by decide : 0 < 2)
  have other : (0 : ℚ) < (Nat.pow 2 exponent.toNat : ℕ) := by
    exact_mod_cast Nat.pow_pos (by decide : 0 < 2)
  rw [show ((2 : ℕ) : ℚ) = 2 by norm_num] at scale
  simp only [inUnits, Nat.cast_mul]
  rw [← scale]
  field_simp

/-- A natural number is as close to a ratio as any, and even if it is not the
only one. -/
structure Nearest (ratio : ℚ) (whole : ℕ) : Prop where
  upper : ratio ≤ whole + 1 / 2
  lower : (whole : ℚ) - 1 / 2 ≤ ratio
  even : ratio = whole + 1 / 2 ∨ ratio = whole - 1 / 2 → whole % 2 = 0

theorem nearest_nearest {numerator denominator : ℕ}
    (positive : 0 < denominator) :
    Nearest ((numerator : ℚ) / denominator)
      (nearest numerator denominator) := by
  have unit : (0 : ℚ) < denominator := by exact_mod_cast positive
  have whole : (numerator : ℚ) / denominator =
      (numerator / denominator : ℕ) +
        ((numerator % denominator : ℕ) : ℚ) / denominator := by
    have split : (denominator : ℚ) * (numerator / denominator : ℕ) +
        (numerator % denominator : ℕ) = numerator := by
      exact_mod_cast Nat.div_add_mod numerator denominator
    field_simp
    linarith
  have less : ((numerator % denominator : ℕ) : ℚ) / denominator < 1 := by
    rw [div_lt_one unit]
    exact_mod_cast Nat.mod_lt numerator positive
  have least : 0 ≤ ((numerator % denominator : ℕ) : ℚ) / denominator := by
    positivity
  have half : ((numerator % denominator : ℕ) : ℚ) / denominator * 2 *
      denominator = 2 * (numerator % denominator : ℕ) := by
    field_simp
  rw [whole]
  unfold nearest
  generalize numerator / denominator = floor
  generalize ((numerator % denominator : ℕ) : ℚ) / denominator = part
    at less least half ⊢
  have next : ((floor + 1 : ℕ) : ℚ) = floor + 1 := Nat.cast_succ floor
  simp only []
  split
  case isTrue below =>
      have smaller : part * 2 * denominator < 1 * denominator := by
        rw [half, one_mul]
        exact_mod_cast below
      have smaller := lt_of_mul_lt_mul_right smaller unit.le
      refine ⟨by linarith, by linarith, ?_⟩
      rintro (tie | tie) <;> exfalso <;> linarith
  case isFalse notBelow =>
      split
      case isTrue above =>
          have larger : 1 * denominator < part * 2 * denominator := by
            rw [half, one_mul]
            exact_mod_cast above
          have larger := lt_of_mul_lt_mul_right larger unit.le
          refine ⟨by linarith, by linarith, ?_⟩
          rintro (tie | tie) <;> exfalso <;> linarith
      case isFalse notAbove =>
          have equal : part * 2 * denominator = 1 * denominator := by
            rw [half, one_mul]
            exact_mod_cast (by omega : 2 * (numerator % denominator) =
              denominator)
          have equal := mul_right_cancel₀ unit.ne' equal
          split
          case isTrue even => exact ⟨by linarith, by linarith, fun _ => even⟩
          case isFalse odd =>
              exact ⟨by linarith, by linarith, fun _ => by omega⟩

theorem Nearest.unique {ratio : ℚ} {whole other : ℕ}
    (near : Nearest ratio whole) (also : Nearest ratio other) :
    whole = other := by
  have apart : ∀ {less more : ℕ}, Nearest ratio less → Nearest ratio more →
      ¬less < more := by
    intro less more low high lt
    have next : (less : ℚ) + 1 ≤ more := by exact_mod_cast lt
    have tie : ratio = less + 1 / 2 := by
      linarith [low.upper, high.lower]
    have above : ratio = more - 1 / 2 := by
      linarith [low.upper, high.lower]
    have successor : (more : ℚ) = (less + 1 : ℕ) := by
      push_cast
      linarith
    have successor : more = less + 1 := by exact_mod_cast successor
    have even := low.even (Or.inl tie)
    have also := high.even (Or.inr above)
    omega
  have notLess := apart near also
  have notMore := apart also near
  omega

structure LastPlace (format : BinaryFormat) (ratio : ℚ) (exponent : ℤ) :
    Prop where
  least : format.least ≤ exponent
  upper : ratio < 2 ^ (format.precision + exponent)
  lower : exponent = format.least ∨
    2 ^ (format.precision + exponent - 1) ≤ ratio

theorem ratio_log2 {numerator denominator : ℕ} (positive : 0 < numerator)
    (denominates : 0 < denominator) :
    (2 : ℚ) ^ ((numerator.log2 : ℤ) - denominator.log2 - 1) <
        (numerator : ℚ) / denominator ∧
      (numerator : ℚ) / denominator <
        2 ^ ((numerator.log2 : ℤ) - denominator.log2 + 1) := by
  have unit : (0 : ℚ) < denominator := by exact_mod_cast denominates
  have low : (2 : ℚ) ^ (numerator.log2 : ℤ) ≤ numerator := by
    exact_mod_cast Nat.log2_self_le positive.ne'
  have high : (numerator : ℚ) < 2 ^ ((numerator.log2 : ℤ) + 1) := by
    exact_mod_cast @Nat.lt_log2_self numerator
  have less : (2 : ℚ) ^ (denominator.log2 : ℤ) ≤ denominator := by
    exact_mod_cast Nat.log2_self_le denominates.ne'
  have more : (denominator : ℚ) < 2 ^ ((denominator.log2 : ℤ) + 1) := by
    exact_mod_cast @Nat.lt_log2_self denominator
  constructor
  · rw [lt_div_iff₀ unit]
    calc
      (2 : ℚ) ^ ((numerator.log2 : ℤ) - denominator.log2 - 1) * denominator
          < 2 ^ ((numerator.log2 : ℤ) - denominator.log2 - 1) *
              2 ^ ((denominator.log2 : ℤ) + 1) :=
        mul_lt_mul_of_pos_left more (by positivity)
      _ = 2 ^ (numerator.log2 : ℤ) := by
        rw [← zpow_add₀ (by norm_num)]
        congr 1
        ring
      _ ≤ numerator := low
  · rw [div_lt_iff₀ unit]
    calc
      (numerator : ℚ) < 2 ^ ((numerator.log2 : ℤ) + 1) := high
      _ = 2 ^ ((numerator.log2 : ℤ) - denominator.log2 + 1) *
            2 ^ (denominator.log2 : ℤ) := by
        rw [← zpow_add₀ (by norm_num)]
        congr 1
        ring
      _ ≤ 2 ^ ((numerator.log2 : ℤ) - denominator.log2 + 1) * denominator :=
        mul_le_mul_of_nonneg_left less (by positivity)

theorem LastPlace.max {format : BinaryFormat} {ratio : ℚ} {exponent : ℤ}
    (upper : ratio < 2 ^ (format.precision + exponent))
    (lower : 2 ^ (format.precision + exponent - 1) ≤ ratio) :
    format.LastPlace ratio (Max.max exponent format.least) := by
  refine ⟨le_max_right _ _, ?_, ?_⟩
  · apply lt_of_lt_of_le upper
    apply zpow_le_zpow_right₀ (by norm_num)
    have le := le_max_left exponent format.least
    omega
  · rcases le_total exponent format.least with less | more
    · exact Or.inl (max_eq_right less)
    · rw [max_eq_left more]
      exact Or.inr lower

theorem lastPlace_lastPlace (format : BinaryFormat)
    {numerator denominator : ℕ} (positive : 0 < numerator)
    (denominates : 0 < denominator) :
    format.LastPlace ((numerator : ℚ) / denominator)
      (format.lastPlace numerator denominator) := by
  obtain ⟨low, high⟩ := ratio_log2 positive denominates
  unfold lastPlace
  simp only []
  -- The logarithms leave two exponents to choose from, and one comparison
  -- decides between them.
  generalize known : (numerator.log2 : ℤ) - denominator.log2 -
    format.precision = estimate
  have unit : (0 : ℚ) < (inUnits numerator denominator estimate).2 := by
    exact_mod_cast inUnits_pos numerator denominates estimate
  have ratio := inUnits_ratio numerator denominator estimate
  have fits : (inUnits numerator denominator estimate).2 *
        Nat.pow 2 format.precision ≤
          (inUnits numerator denominator estimate).1 ↔
      (2 : ℚ) ^ (format.precision + estimate) ≤ numerator / denominator := by
    rw [← Nat.cast_le (α := ℚ), Nat.cast_mul, mul_comm, ← le_div_iff₀ unit,
      ratio, le_div_iff₀ (by positivity), zpow_add₀ (by norm_num)]
    norm_cast
  split
  case isTrue more =>
      rw [fits] at more
      apply LastPlace.max
      · apply lt_of_lt_of_le high
        apply zpow_le_zpow_right₀ (by norm_num)
        omega
      · apply le_trans _ more
        apply zpow_le_zpow_right₀ (by norm_num)
        omega
  case isFalse less =>
      rw [fits] at less
      apply LastPlace.max
      · exact lt_of_not_ge less
      · apply le_trans _ low.le
        apply zpow_le_zpow_right₀ (by norm_num)
        omega

/-- A number in the form in which a format holds it. -/
structure Canonical (format : BinaryFormat) (number : Dyadic) : Prop where
  small : number.significand < 2 ^ format.precision
  least : format.least ≤ number.exponent
  greatest : number.exponent ≤ format.greatest
  normal : number.exponent = format.least ∨
    2 ^ (format.precision - 1) ≤ number.significand

def narrow (format : BinaryFormat) (number : Dyadic) : Prop :=
  number.significand = 2 ^ (format.precision - 1) ∧
    format.least < number.exponent

/-- A ratio lies where it is rounded to a number. -/
structure RoundsTo (format : BinaryFormat) (ratio : ℚ) (number : Dyadic) :
    Prop where
  canonical : format.Canonical number
  upper : ratio ≤ (number.significand + 1 / 2) * 2 ^ number.exponent
  lower : (number.significand - 1 / 2) * 2 ^ number.exponent ≤ ratio
  narrow : format.narrow number →
    (number.significand - 1 / 4) * 2 ^ number.exponent ≤ ratio
  even :
    ratio = (number.significand + 1 / 2) * 2 ^ number.exponent ∨
      ratio = (number.significand - 1 / 2) * 2 ^ number.exponent →
    number.significand % 2 = 0

theorem two_zpow_add (places : ℕ) (exponent : ℤ) :
    (2 : ℚ) ^ (places + exponent) = (2 ^ places : ℕ) * 2 ^ exponent := by
  rw [zpow_add₀ (by norm_num)]
  norm_cast

variable {format : BinaryFormat} {ratio : ℚ} {number : Dyadic}

theorem LastPlace.bounds {exponent : ℤ} (precise : 2 ≤ format.precision)
    (last : format.LastPlace ratio exponent) :
    ratio < (2 ^ format.precision : ℕ) * 2 ^ exponent ∧
      (exponent = format.least ∨
        (2 ^ (format.precision - 1) : ℕ) * 2 ^ exponent ≤ ratio) := by
  constructor
  · rw [← two_zpow_add]
    exact last.upper
  · rcases last.lower with least | lower
    · exact Or.inl least
    · right
      rw [← two_zpow_add]
      apply le_trans _ lower
      apply zpow_le_zpow_right₀ (by norm_num)
      omega

theorem LastPlace.unique {exponent other : ℤ}
    (last : format.LastPlace ratio exponent)
    (also : format.LastPlace ratio other) : exponent = other := by
  have apart : ∀ {less more : ℤ}, format.LastPlace ratio less →
      format.LastPlace ratio more → ¬less < more := by
    intro less more low high lt
    rcases high.lower with least | lower
    · have bound := low.least
      omega
    · have within := lt_of_le_of_lt lower low.upper
      rw [zpow_lt_zpow_iff_right₀ (by norm_num)] at within
      omega
  have notLess := apart last also
  have notMore := apart also last
  omega

theorem two_pow_pred {places : ℕ} (positive : 1 ≤ places) :
    ((2 ^ places : ℕ) : ℚ) = 2 * (2 ^ (places - 1) : ℕ) := by
  rw [← Nat.two_pow_pred_mul_two positive, Nat.mul_comm]
  push_cast
  rfl

/-- A ratio counted in units of the last place is rounded to the nearest
number. -/
theorem Nearest.roundsTo (precise : 2 ≤ format.precision) {exponent : ℤ}
    {significand : ℕ} (last : format.LastPlace ratio exponent)
    (near : Nearest (ratio / 2 ^ exponent) significand)
    (small : significand < 2 ^ format.precision)
    (greatest : exponent ≤ format.greatest) :
    format.RoundsTo ratio ⟨significand, exponent⟩ := by
  have unit : (0 : ℚ) < 2 ^ exponent := by positivity
  obtain ⟨below, above⟩ := last.bounds precise
  have whole : ratio = ratio / 2 ^ exponent * 2 ^ exponent := by field_simp
  generalize ratio / 2 ^ exponent = units at near whole
  subst whole
  have normal : exponent = format.least ∨
      2 ^ (format.precision - 1) ≤ significand := by
    rcases above with least | above
    · exact Or.inl least
    · right
      have lower := le_of_mul_le_mul_right above unit
      have next : ((2 ^ (format.precision - 1) : ℕ) : ℚ) <
          (significand + 1 : ℕ) := by
        push_cast at lower ⊢
        linarith [near.upper]
      exact Nat.lt_succ_iff.mp (by exact_mod_cast next)
  refine ⟨⟨small, last.least, greatest, normal⟩, ?_, ?_, ?_, ?_⟩
  · exact mul_le_mul_of_nonneg_right near.upper unit.le
  · exact mul_le_mul_of_nonneg_right near.lower unit.le
  · rintro ⟨power, more⟩
    simp only at power more
    rcases above with least | above
    · omega
    · rw [power]
      apply le_trans _ above
      apply mul_le_mul_of_nonneg_right _ unit.le
      push_cast
      linarith
  · rintro (tie | tie)
    · exact near.even (Or.inl (mul_right_cancel₀ unit.ne' tie))
    · exact near.even (Or.inr (mul_right_cancel₀ unit.ne' tie))

theorem Nearest.roundsTo_next (precise : 2 ≤ format.precision) {exponent : ℤ}
    (last : format.LastPlace ratio exponent)
    (near : Nearest (ratio / 2 ^ exponent) (2 ^ format.precision))
    (greatest : exponent + 1 ≤ format.greatest) :
    format.RoundsTo ratio ⟨2 ^ (format.precision - 1), exponent + 1⟩ := by
  have unit : (0 : ℚ) < 2 ^ exponent := by positivity
  have double : (2 : ℚ) ^ (exponent + 1) = 2 * 2 ^ exponent := by
    rw [zpow_add₀ (by norm_num)]
    ring
  have power := two_pow_pred (by omega : 1 ≤ format.precision)
  have below := (last.bounds precise).1
  have least := last.least
  have lower : ((2 ^ format.precision : ℕ) - 1 / 2 : ℚ) * 2 ^ exponent ≤
      ratio := by
    have scaled := mul_le_mul_of_nonneg_right near.lower unit.le
    rwa [div_mul_cancel₀ _ unit.ne'] at scaled
  rw [power] at lower below
  refine ⟨⟨?_, ?_, greatest, Or.inr (Nat.le_refl _)⟩, ?_, ?_, ?_, ?_⟩
  · exact Nat.pow_lt_pow_right (by decide) (by omega)
  · simp only
    omega
  · simp only [double]
    linarith
  · simp only [double]
    linarith
  · intro _
    simp only [double]
    linarith
  · intro _
    exact Nat.two_pow_mod_two_eq_zero.mpr (by omega)

section Rounded

variable {numerator denominator : ℕ}

theorem round_eq (positive : 0 < numerator) (denominates : 0 < denominator)
    {exponent : ℤ} {significand : ℕ}
    (last : format.LastPlace ((numerator : ℚ) / denominator) exponent)
    (near : Nearest ((numerator : ℚ) / denominator / 2 ^ exponent)
      significand) :
    format.round numerator denominator =
      if significand = 2 ^ format.precision then
        if format.greatest < exponent + 1 then none
        else some ⟨2 ^ (format.precision - 1), exponent + 1⟩
      else if format.greatest < exponent then none
      else some ⟨significand, exponent⟩ := by
  obtain rfl := last.unique
    (lastPlace_lastPlace format positive denominates)
  have counted : Nearest _ (nearest (inUnits numerator denominator
      (format.lastPlace numerator denominator)).1 (inUnits numerator
        denominator (format.lastPlace numerator denominator)).2) :=
    nearest_nearest (inUnits_pos numerator denominates _)
  rw [inUnits_ratio] at counted
  obtain rfl := near.unique counted
  simp only [round, if_neg positive.ne', Nat.pow_eq]
  split <;> rfl

theorem exists_nearest (format : BinaryFormat) (positive : 0 < numerator)
    (denominates : 0 < denominator) :
    ∃ exponent significand,
      format.LastPlace ((numerator : ℚ) / denominator) exponent ∧
        Nearest ((numerator : ℚ) / denominator / 2 ^ exponent)
          significand := by
  refine ⟨format.lastPlace numerator denominator, nearest
    (inUnits numerator denominator (format.lastPlace numerator denominator)).1
    (inUnits numerator denominator (format.lastPlace numerator denominator)).2,
    lastPlace_lastPlace format positive denominates, ?_⟩
  rw [← inUnits_ratio]
  exact nearest_nearest (inUnits_pos numerator denominates _)

theorem Nearest.le_pow {exponent : ℤ} {significand : ℕ}
    (last : format.LastPlace ratio exponent)
    (near : Nearest (ratio / 2 ^ exponent) significand) :
    significand ≤ 2 ^ format.precision := by
  have unit : (0 : ℚ) < 2 ^ exponent := by positivity
  have upper := last.upper
  rw [two_zpow_add, ← div_lt_iff₀ unit] at upper
  have less : (significand : ℚ) < (2 ^ format.precision + 1 : ℕ) := by
    push_cast at upper ⊢
    linarith [near.lower]
  exact Nat.lt_succ_iff.mp (by exact_mod_cast less)

/-- A quotient lies where it is rounded to the result. -/
theorem round_roundsTo (precise : 2 ≤ format.precision)
    (positive : 0 < numerator) (denominates : 0 < denominator)
    (rounded : format.round numerator denominator = some number) :
    format.RoundsTo ((numerator : ℚ) / denominator) number := by
  obtain ⟨exponent, significand, last, near⟩ :=
    exists_nearest format positive denominates
  rw [round_eq positive denominates last near] at rounded
  -- A significand with one digit too many is the next power of two.
  have le := near.le_pow last
  split at rounded
  case isTrue power =>
      subst power
      split at rounded
      case isTrue => cases rounded
      case isFalse greatest =>
          obtain rfl := Option.some.inj rounded
          exact near.roundsTo_next precise last (Int.not_lt.mp greatest)
  case isFalse less =>
      split at rounded
      case isTrue => cases rounded
      case isFalse greatest =>
          obtain rfl := Option.some.inj rounded
          exact near.roundsTo precise last (Nat.lt_of_le_of_ne le less)
            (Int.not_lt.mp greatest)

theorem exists_round (format : BinaryFormat) (positive : 0 < numerator)
    (denominates : 0 < denominator)
    (inside : format.least < format.greatest)
    (small : (numerator : ℚ) / denominator <
      2 ^ (format.precision + format.greatest - 1)) :
    ∃ number, format.round numerator denominator = some number := by
  obtain ⟨exponent, significand, last, near⟩ :=
    exists_nearest format positive denominates
  have less : exponent < format.greatest := by
    rcases last.lower with least | lower
    · exact least ▸ inside
    · have within := lt_of_le_of_lt lower small
      rw [zpow_lt_zpow_iff_right₀ (by norm_num)] at within
      omega
  have notOver : ¬format.greatest < exponent := by omega
  have notNext : ¬format.greatest < exponent + 1 := by omega
  rw [round_eq positive denominates last near, if_neg notOver, if_neg notNext]
  split <;> exact ⟨_, rfl⟩

/-- A ratio that lies in the interval of a number but below it and below a power
of two has the last place under the one of the number. -/
theorem RoundsTo.below (precise : 2 ≤ format.precision)
    (rounds : format.RoundsTo ratio number)
    (more : format.least < number.exponent)
    (below : ratio < (2 ^ (format.precision - 1) : ℕ) * 2 ^ number.exponent) :
    number.significand = 2 ^ (format.precision - 1) ∧
      format.LastPlace ratio (number.exponent - 1) ∧
      Nearest (ratio / 2 ^ (number.exponent - 1)) (2 ^ format.precision) := by
  obtain ⟨significand, exponent⟩ := number
  simp only at more below ⊢
  have unit : (0 : ℚ) < 2 ^ exponent := by positivity
  have finer : (0 : ℚ) < 2 ^ (exponent - 1) := by positivity
  have double : (2 : ℚ) ^ exponent = 2 * 2 ^ (exponent - 1) := by
    rw [zpow_sub_one₀ (by norm_num)]
    ring
  have power := two_pow_pred (by omega : 1 ≤ format.precision)
  have equal : significand = 2 ^ (format.precision - 1) := by
    have enough := rounds.canonical.normal.resolve_left more.ne'
    have less := lt_of_mul_lt_mul_right (lt_of_le_of_lt rounds.lower below)
      unit.le
    have less : (significand : ℚ) < (2 ^ (format.precision - 1) + 1 : ℕ) := by
      push_cast at less ⊢
      linarith
    have less : significand < 2 ^ (format.precision - 1) + 1 := by
      exact_mod_cast less
    simp only at enough
    omega
  have closer := rounds.narrow ⟨equal, more⟩
  simp only [equal, double] at closer below
  have above : ((2 ^ format.precision : ℕ) - 1 / 2 : ℚ) * 2 ^ (exponent - 1) ≤
      ratio := by
    rw [power]
    linarith
  have under : ratio < (2 ^ format.precision : ℕ) * 2 ^ (exponent - 1) := by
    rw [power]
    linarith
  refine ⟨equal, ⟨by omega, ?_, Or.inr ?_⟩, ?_, ?_, ?_⟩
  · rw [two_zpow_add]
    exact under
  · have shift : (format.precision : ℤ) + (exponent - 1) - 1 =
        (format.precision - 1 : ℕ) + (exponent - 1) := by omega
    have least : (1 : ℚ) ≤ (2 ^ (format.precision - 1) : ℕ) := by
      exact_mod_cast Nat.one_le_two_pow
    rw [shift, two_zpow_add]
    apply le_trans _ above
    apply mul_le_mul_of_nonneg_right _ finer.le
    rw [power]
    linarith
  · rw [div_le_iff₀ finer]
    linarith
  · rw [le_div_iff₀ finer]
    exact above
  · intro _
    exact Nat.two_pow_mod_two_eq_zero.mpr (by omega)

/-- Any other ratio that lies in the interval of a number has its last place. -/
theorem RoundsTo.beside (precise : 2 ≤ format.precision)
    (rounds : format.RoundsTo ratio number)
    (beside : number.exponent = format.least ∨
      (2 ^ (format.precision - 1) : ℕ) * 2 ^ number.exponent ≤ ratio) :
    format.LastPlace ratio number.exponent ∧
      Nearest (ratio / 2 ^ number.exponent) number.significand := by
  obtain ⟨significand, exponent⟩ := number
  obtain ⟨⟨small, least, _, _⟩, upper, lower, _, even⟩ := rounds
  simp only at small least upper lower even beside ⊢
  have unit : (0 : ℚ) < 2 ^ exponent := by positivity
  refine ⟨⟨least, ?_, ?_⟩, ?_, ?_, ?_⟩
  · have most : (significand : ℚ) + 1 ≤ (2 ^ format.precision : ℕ) := by
      exact_mod_cast small
    rw [two_zpow_add]
    apply lt_of_le_of_lt upper
    apply mul_lt_mul_of_pos_right _ unit
    linarith
  · apply beside.imp_right
    intro enough
    have shift : (format.precision : ℤ) + exponent - 1 =
        (format.precision - 1 : ℕ) + exponent := by omega
    rw [shift, two_zpow_add]
    exact enough
  · rw [div_le_iff₀ unit]
    exact upper
  · rw [le_div_iff₀ unit]
    exact lower
  · intro tie
    apply even
    apply tie.imp <;> intro tie
    · exact (div_eq_iff unit.ne').mp tie
    · exact (div_eq_iff unit.ne').mp tie

/-- Only the number in whose interval a quotient lies is the result. -/
theorem round_of_roundsTo (precise : 2 ≤ format.precision)
    (positive : 0 < numerator) (denominates : 0 < denominator)
    (rounds : format.RoundsTo ((numerator : ℚ) / denominator) number) :
    format.round numerator denominator = some number := by
  have small := rounds.canonical.small
  have greatest := Int.not_lt.mpr rounds.canonical.greatest
  by_cases beside : number.exponent = format.least ∨
    (2 ^ (format.precision - 1) : ℕ) * 2 ^ number.exponent ≤
      (numerator : ℚ) / denominator
  · obtain ⟨last, near⟩ := rounds.beside precise beside
    rw [round_eq positive denominates last near, if_neg small.ne,
      if_neg greatest]
  · obtain ⟨notLeast, below⟩ := not_or.mp beside
    have more := lt_of_le_of_ne rounds.canonical.least (Ne.symm notLeast)
    obtain ⟨power, last, near⟩ :=
      rounds.below precise more (not_le.mp below)
    rw [round_eq positive denominates last near, if_pos rfl,
      Int.sub_add_cancel, if_neg greatest, ← power]

end Rounded

theorem RoundsTo.error (rounds : format.RoundsTo ratio number) :
    |number.value - ratio| ≤ 2 ^ number.exponent / 2 := by
  have upper := rounds.upper
  have lower := rounds.lower
  rw [add_mul] at upper
  rw [sub_mul] at lower
  rw [abs_le]
  constructor <;> simp only [Dyadic.value] <;> linarith

theorem RoundsTo.exact (rounds : format.RoundsTo ratio number) (count : ℤ)
    (multiple : ratio = count * 2 ^ number.exponent) :
    number.value = ratio := by
  have unit : (0 : ℚ) < 2 ^ number.exponent := by positivity
  have error := rounds.error
  have apart : number.value - ratio =
      ((number.significand - count : ℤ) : ℚ) * 2 ^ number.exponent := by
    rw [multiple, Dyadic.value]
    push_cast
    ring
  rw [apart, abs_mul, abs_of_pos unit, div_eq_inv_mul] at error
  have less := lt_of_le_of_lt (le_of_mul_le_mul_right error unit)
    (by norm_num : (2 : ℚ)⁻¹ < 1)
  have none_ : |(number.significand - count : ℤ)| < 1 := by
    exact_mod_cast less
  rw [Int.abs_lt_one_iff] at none_
  rw [none_, Int.cast_zero, zero_mul] at apart
  linarith

theorem Canonical.roundsTo (canonical : format.Canonical number) :
    format.RoundsTo number.value number := by
  have unit : (0 : ℚ) < 2 ^ number.exponent := by positivity
  refine ⟨canonical, ?_, ?_, ?_, ?_⟩
  · apply mul_le_mul_of_nonneg_right _ unit.le
    linarith
  · apply mul_le_mul_of_nonneg_right _ unit.le
    linarith
  · intro _
    apply mul_le_mul_of_nonneg_right _ unit.le
    linarith
  · rintro (tie | tie) <;> exfalso
    · have same := mul_right_cancel₀ unit.ne' tie
      linarith
    · have same := mul_right_cancel₀ unit.ne' tie
      linarith

theorem exists_round_whole (format : BinaryFormat)
    (precise : 2 ≤ format.precision)
    (fractions : format.least + format.precision ≤ 1)
    (larger : 0 ≤ format.greatest) {whole : ℕ} (positive : 0 < whole)
    (small : whole < 2 ^ format.precision) :
    ∃ number, format.round whole 1 = some number ∧
      0 < number.significand ∧ number.value = whole := by
  have places : whole.log2 < format.precision :=
    (Nat.log2_lt positive.ne').mpr small
  have low := Nat.log2_self_le positive.ne'
  have high := @Nat.lt_log2_self whole
  obtain ⟨shift, known⟩ :=
    Nat.exists_eq_add_of_le (Nat.le_sub_one_of_lt places)
  have value : Dyadic.value ⟨whole * 2 ^ shift, -shift⟩ = whole := by
    rw [Dyadic.value, zpow_neg, zpow_natCast]
    push_cast
    field_simp
  have canonical : format.Canonical ⟨whole * 2 ^ shift, -shift⟩ := by
    refine ⟨?_, ?_, ?_, Or.inr ?_⟩
    · simp only
      have power : 2 ^ format.precision = 2 ^ (whole.log2 + 1) * 2 ^ shift := by
        rw [← pow_add]
        congr 1
        omega
      rw [power]
      exact Nat.mul_lt_mul_of_pos_right high (Nat.pow_pos (by decide))
    · simp only
      omega
    · simp only
      omega
    · simp only
      rw [known, pow_add]
      exact Nat.mul_le_mul_right _ low
  have rounds := canonical.roundsTo
  rw [value, ← div_one (whole : ℚ), ← Nat.cast_one] at rounds
  refine ⟨_, round_of_roundsTo precise positive (by decide) rounds, ?_, value⟩
  exact Nat.mul_pos positive (Nat.pow_pos (by decide))

theorem RoundsTo.exists_whole {whole : ℕ}
    (rounds : format.RoundsTo (whole : ℚ) number) :
    ∃ rounded : ℕ, number.value = rounded := by
  rcases Int.le_total 0 number.exponent with large | small
  · obtain ⟨shift, known⟩ := Int.eq_ofNat_of_zero_le large
    refine ⟨number.significand * 2 ^ shift, ?_⟩
    rw [Dyadic.value, known, zpow_natCast]
    push_cast
    rfl
  · obtain ⟨shift, known⟩ := Int.exists_eq_neg_ofNat small
    refine ⟨whole, rounds.exact (whole * 2 ^ shift : ℕ) ?_⟩
    rw [known, zpow_neg, zpow_natCast]
    push_cast
    field_simp

theorem RoundsTo.between {low middle high : ℚ}
    (first : format.RoundsTo low number) (last : format.RoundsTo high number)
    (above : low ≤ middle) (below : middle ≤ high) :
    format.RoundsTo middle number := by
  refine ⟨first.canonical, le_trans below last.upper,
    le_trans first.lower above, ?_, ?_⟩
  · intro narrow
    exact le_trans (first.narrow narrow) above
  · rintro (tie | tie)
    · exact last.even (Or.inl (le_antisymm last.upper (tie ▸ below)))
    · exact first.even (Or.inr (le_antisymm (tie ▸ above) first.lower))

section Positive

variable (positive : 0 < number.significand)
include positive

theorem RoundsTo.le_twice (rounds : format.RoundsTo ratio number) :
    number.value ≤ 2 * ratio := by
  have unit : (0 : ℚ) < 2 ^ number.exponent := by positivity
  have one : (1 : ℚ) ≤ number.significand := by exact_mod_cast positive
  have lower := rounds.lower
  rw [Dyadic.value]
  nlinarith

theorem RoundsTo.twice_le (rounds : format.RoundsTo ratio number) :
    ratio ≤ 2 * number.value := by
  have unit : (0 : ℚ) < 2 ^ number.exponent := by positivity
  have one : (1 : ℚ) ≤ number.significand := by exact_mod_cast positive
  have upper := rounds.upper
  rw [Dyadic.value]
  nlinarith

end Positive

end BinaryFormat

end MeterLine
