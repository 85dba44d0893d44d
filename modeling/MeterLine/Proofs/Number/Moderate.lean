import MeterLine.Proofs.Number.Search

/-!
# Numbers of the size of readings

Readings are decimal numbers of at most two places, rounded to single
precision.  Their shortest forms have at most three places.  Such a form may be
rounded to double precision first: where two single-precision numbers meet is a
multiple of a quarter of a unit, which double precision holds exactly, and a
decimal number that is not there is too far from it to be moved across.
-/

namespace MeterLine

namespace BinaryFormat

/-- The single-precision numbers of the size that readings have. -/
structure Moderate (number : Dyadic) : Prop where
  canonical : single.Canonical number
  normal : 2 ^ 23 ≤ number.significand
  low : -31 ≤ number.exponent
  high : number.exponent ≤ 9

variable {ratio : ℚ} {coarse fine : Dyadic}

theorem Moderate.of_roundsTo (rounds : single.RoundsTo ratio coarse)
    (above : 1 / 100 ≤ ratio) (below : ratio ≤ 2 ^ 32) : Moderate coarse := by
  have unit : (0 : ℚ) < 2 ^ coarse.exponent := by positivity
  have most : (coarse.significand : ℚ) + 1 ≤ 2 ^ 24 := by
    exact_mod_cast rounds.canonical.small
  have low : -31 ≤ coarse.exponent := by
    by_contra small
    have power : (2 : ℚ) ^ coarse.exponent ≤ 2 ^ (-32 : ℤ) :=
      zpow_le_zpow_right₀ (by norm_num) (by omega)
    have upper := rounds.upper
    norm_num at power
    nlinarith
  have normal := rounds.canonical.normal.resolve_left (by
    simp only [single]
    omega)
  have least : (2 : ℚ) ^ 23 ≤ coarse.significand := by exact_mod_cast normal
  refine ⟨rounds.canonical, normal, low, ?_⟩
  by_contra large
  have power : (2 : ℚ) ^ (10 : ℤ) ≤ 2 ^ coarse.exponent :=
    zpow_le_zpow_right₀ (by norm_num) (by omega)
  have lower := rounds.lower
  norm_num at power
  nlinarith

theorem RoundsTo.finer (rounds : single.RoundsTo ratio coarse)
    (finely : double.RoundsTo ratio fine) (moderate : Moderate coarse) :
    fine.exponent ≤ coarse.exponent - 28 := by
  have low := moderate.low
  rcases finely.canonical.normal with least | normal
  · simp only [double] at least
    omega
  · have most : (coarse.significand : ℚ) + 1 ≤ 2 ^ 24 := by
      exact_mod_cast rounds.canonical.small
    have least : (2 : ℚ) ^ 52 ≤ fine.significand := by exact_mod_cast normal
    have unit : (0 : ℚ) < 2 ^ coarse.exponent := by positivity
    have part : (0 : ℚ) < 2 ^ fine.exponent := by positivity
    have less : (2 : ℚ) ^ (51 + fine.exponent) <
        2 ^ (24 + coarse.exponent) := by
      calc
        (2 : ℚ) ^ (51 + fine.exponent) = 2 ^ 51 * 2 ^ fine.exponent := by
          rw [zpow_add₀ (by norm_num)]
          norm_cast
        _ ≤ (fine.significand - 1 / 2) * 2 ^ fine.exponent := by
          apply mul_le_mul_of_nonneg_right _ part.le
          linarith
        _ ≤ (coarse.significand + 1 / 2) * 2 ^ coarse.exponent :=
          le_trans finely.lower rounds.upper
        _ < 2 ^ 24 * 2 ^ coarse.exponent := by
          apply mul_lt_mul_of_pos_right _ unit
          linarith
        _ = 2 ^ (24 + coarse.exponent) := by
          rw [zpow_add₀ (by norm_num)]
          norm_cast
    rw [zpow_lt_zpow_iff_right₀ (by norm_num)] at less
    omega

/-- A decimal number of few places that is not a multiple of a power of two is
away from it. -/
theorem away {digits places : ℕ} (few : places ≤ 3) {exponent : ℤ}
    (high : exponent ≤ 7) {count : ℤ}
    (other : (digits : ℚ) / 10 ^ places ≠ count * 2 ^ exponent) :
    (2 : ℚ) ^ (exponent - 26) / 2 <
      |(digits : ℚ) / 10 ^ places - count * 2 ^ exponent| := by
  have ten : (0 : ℚ) < 10 ^ places := by positivity
  have down : (0 : ℚ) < 2 ^ (-exponent).toNat := by positivity
  have power : (2 : ℚ) ^ exponent =
      2 ^ exponent.toNat / 2 ^ (-exponent).toNat := by
    rw [← zpow_natCast, ← zpow_natCast, ← zpow_sub₀ (by norm_num)]
    congr 1
    omega
  -- The difference is a fraction of `10 ^ places` and of the power of two, and
  -- so no smaller than one of them.
  have apart : (digits : ℚ) / 10 ^ places - count * 2 ^ exponent =
      (digits * 2 ^ (-exponent).toNat -
          count * 2 ^ exponent.toNat * 10 ^ places : ℤ) /
        (10 ^ places * 2 ^ (-exponent).toNat) := by
    rw [power]
    push_cast
    field_simp
  have some_ : (1 : ℚ) ≤ |((digits * 2 ^ (-exponent).toNat -
      count * 2 ^ exponent.toNat * 10 ^ places : ℤ) : ℚ)| := by
    have nonzero := sub_ne_zero.mpr other
    rw [apart, div_ne_zero_iff] at nonzero
    exact_mod_cast Int.one_le_abs (by exact_mod_cast nonzero.1)
  have thousand : (10 : ℚ) ^ places ≤ 10 ^ 3 :=
    pow_le_pow_right₀ (by norm_num) few
  have tiny : (2 : ℚ) ^ (exponent - 26) * 2 ^ (-exponent).toNat ≤
      2 ^ (-19 : ℤ) := by
    rw [← zpow_natCast, ← zpow_add₀ (by norm_num)]
    apply zpow_le_zpow_right₀ (by norm_num)
    omega
  have small : (0 : ℚ) < 2 ^ (exponent - 26) := by positivity
  rw [apart, abs_div, abs_of_pos (mul_pos ten down),
    lt_div_iff₀ (mul_pos ten down)]
  apply lt_of_lt_of_le _ some_
  calc
    (2 : ℚ) ^ (exponent - 26) / 2 * (10 ^ places * 2 ^ (-exponent).toNat)
        = 10 ^ places / 2 *
            (2 ^ (exponent - 26) * 2 ^ (-exponent).toNat) := by ring
    _ ≤ 10 ^ 3 / 2 * 2 ^ (-19 : ℤ) := by
      apply mul_le_mul _ tiny (by positivity) (by positivity)
      linarith
    _ < 1 := by norm_num

structure SameSide (number other border : ℚ) : Prop where
  below : number ≤ border → other ≤ border
  above : border ≤ number → border ≤ other
  on : other = border → number = border

/-- Rounding to a finer format does not carry a decimal number of few places
across a multiple of a power of two. -/
theorem RoundsTo.side {digits places : ℕ} (few : places ≤ 3) {exponent : ℤ}
    (finely : double.RoundsTo ((digits : ℚ) / 10 ^ places) fine)
    (finer : fine.exponent ≤ exponent - 26) (high : exponent ≤ 7)
    (count : ℤ) :
    SameSide ((digits : ℚ) / 10 ^ places) fine.value
      (count * 2 ^ exponent) := by
  by_cases same : (digits : ℚ) / 10 ^ places = count * 2 ^ exponent
  · have power : (2 : ℚ) ^ exponent =
        (2 ^ (exponent - fine.exponent).toNat : ℤ) * 2 ^ fine.exponent := by
      push_cast
      rw [← zpow_natCast, ← zpow_add₀ (by norm_num)]
      congr 1
      omega
    have multiple : (digits : ℚ) / 10 ^ places =
        (count * 2 ^ (exponent - fine.exponent).toNat : ℤ) *
          2 ^ fine.exponent := by
      rw [same, power, Int.cast_mul, mul_assoc]
    have equal := finely.exact _ multiple
    rw [equal]
    exact ⟨id, id, id⟩
  · have gap := away few high same
    have power : (2 : ℚ) ^ fine.exponent ≤ 2 ^ (exponent - 26) :=
      zpow_le_zpow_right₀ (by norm_num) finer
    have error := finely.error
    have near : |fine.value - (digits : ℚ) / 10 ^ places| <
        |(digits : ℚ) / 10 ^ places - count * 2 ^ exponent| := by
      linarith
    rw [abs_lt] at near
    rcases lt_or_gt_of_ne same with below | above
    · rw [abs_of_neg (sub_neg.mpr below)] at near
      have less : fine.value < count * 2 ^ exponent := by linarith
      exact ⟨fun _ => less.le, fun le => (below.not_ge le).elim,
        fun equal => (less.ne equal).elim⟩
    · rw [abs_of_pos (sub_pos.mpr above)] at near
      have more : count * 2 ^ exponent < fine.value := by linarith
      exact ⟨fun le => (above.not_ge le).elim, fun _ => more.le,
        fun equal => (more.ne' equal).elim⟩

/-- Rounding a decimal number of few places by way of double precision comes to
the same as rounding it at once. -/
theorem RoundsTo.through {digits places : ℕ} (few : places ≤ 3)
    (moderate : Moderate coarse)
    (rounds : single.RoundsTo ((digits : ℚ) / 10 ^ places) coarse)
    (finely : double.RoundsTo ((digits : ℚ) / 10 ^ places) fine) :
    single.RoundsTo fine.value coarse := by
  have finer := rounds.finer finely moderate
  have high := moderate.high
  have power : (2 : ℚ) ^ coarse.exponent = 4 * 2 ^ (coarse.exponent - 2) := by
    rw [zpow_sub₀ (by norm_num)]
    ring
  -- All ends of the interval are multiples of a quarter of its unit.
  have side : ∀ (border : ℚ) (count : ℤ), 4 * border = count →
      SameSide ((digits : ℚ) / 10 ^ places) fine.value
        (border * 2 ^ coarse.exponent) := by
    intro border count quarters
    have multiple : border * 2 ^ coarse.exponent =
        count * 2 ^ (coarse.exponent - 2) := by
      rw [power, ← quarters]
      ring
    rw [multiple]
    exact finely.side few (by omega) (by omega) count
  have upper := side (coarse.significand + 1 / 2)
    (4 * coarse.significand + 2) (by push_cast; ring)
  have lower := side (coarse.significand - 1 / 2)
    (4 * coarse.significand - 2) (by push_cast; ring)
  have closer := side (coarse.significand - 1 / 4)
    (4 * coarse.significand - 1) (by push_cast; ring)
  constructor
  · exact rounds.canonical
  · exact upper.below rounds.upper
  · exact lower.above rounds.lower
  · intro narrow
    exact closer.above (rounds.narrow narrow)
  · intro tie
    exact rounds.even (tie.imp upper.on lower.on)

namespace Moderate

variable {number : Dyadic}

theorem value_bounds (moderate : Moderate number) :
    2 ^ (-8 : ℤ) ≤ number.value ∧ number.value < 2 ^ (33 : ℤ) := by
  have unit : (0 : ℚ) < 2 ^ number.exponent := by positivity
  have least : (2 : ℚ) ^ 23 ≤ number.significand := by
    exact_mod_cast moderate.normal
  have most : (number.significand : ℚ) < 2 ^ 24 := by
    exact_mod_cast moderate.canonical.small
  have low : (2 : ℚ) ^ (-31 : ℤ) ≤ 2 ^ number.exponent :=
    zpow_le_zpow_right₀ (by norm_num) moderate.low
  have high : (2 : ℚ) ^ number.exponent ≤ 2 ^ (9 : ℤ) :=
    zpow_le_zpow_right₀ (by norm_num) moderate.high
  rw [Dyadic.value]
  constructor
  · calc
      (2 : ℚ) ^ (-8 : ℤ) = 2 ^ 23 * 2 ^ (-31 : ℤ) := by norm_num
      _ ≤ number.significand * 2 ^ number.exponent :=
        mul_le_mul least low (by positivity) (by positivity)
  · calc
      (number.significand : ℚ) * 2 ^ number.exponent
          < 2 ^ 24 * 2 ^ number.exponent :=
        mul_lt_mul_of_pos_right most unit
      _ ≤ 2 ^ 24 * 2 ^ (9 : ℤ) :=
        mul_le_mul_of_nonneg_left high (by positivity)
      _ = 2 ^ (33 : ℤ) := by norm_num

theorem exists_whole (moderate : Moderate number) (places : ℕ)
    (large : 2 ^ (24 + places - 1 : ℤ) ≤ number.value) :
    (places : ℤ) ≤ number.exponent ∧ ∃ whole : ℕ, number.value = whole := by
  have unit : (0 : ℚ) < 2 ^ number.exponent := by positivity
  have most : (number.significand : ℚ) < 2 ^ 24 := by
    exact_mod_cast moderate.canonical.small
  have less : (2 : ℚ) ^ (24 + places - 1 : ℤ) <
      2 ^ (24 + number.exponent) := by
    apply lt_of_le_of_lt large
    rw [zpow_add₀ (by norm_num)]
    apply mul_lt_mul_of_pos_right _ unit
    exact_mod_cast most
  rw [zpow_lt_zpow_iff_right₀ (by norm_num)] at less
  have exponent : (number.exponent.toNat : ℤ) = number.exponent := by omega
  refine ⟨by omega, number.significand * 2 ^ number.exponent.toNat, ?_⟩
  rw [Dyadic.value, ← exponent, zpow_natCast]
  push_cast
  rfl

theorem exists_ten (moderate : Moderate number)
    (large : 2 ^ (29 : ℤ) ≤ number.value) :
    ∃ digits : ℕ, single.RoundsTo (digits * 10) number := by
  obtain ⟨exponent, whole, known⟩ :=
    moderate.exists_whole 6 (by norm_num at large ⊢; exact large)
  have power : (2 : ℚ) ^ (6 : ℤ) ≤ 2 ^ number.exponent :=
    zpow_le_zpow_right₀ (by norm_num) exponent
  have above : (whole : ℚ) < (whole / 10 + 1 : ℕ) * 10 := by
    exact_mod_cast (by omega : whole < (whole / 10 + 1) * 10)
  have below : ((whole / 10 + 1 : ℕ) : ℚ) * 10 ≤ whole + 10 := by
    exact_mod_cast (by omega : (whole / 10 + 1) * 10 ≤ whole + 10)
  have value : (number.significand : ℚ) * 2 ^ number.exponent = whole := known
  norm_num at power
  refine ⟨whole / 10 + 1, moderate.canonical, ?_, ?_, ?_, ?_⟩
  · linarith
  · linarith
  · intro _
    linarith
  · rintro (tie | tie) <;> exfalso <;> linarith

theorem value_shifted (digits : ℕ) {places more : ℕ} (le : places ≤ more) :
    Decimal.value ⟨digits * 10 ^ (more - places), -more⟩ =
      digits / 10 ^ places := by
  have power : (10 : ℚ) ^ more = 10 ^ (more - places) * 10 ^ places := by
    rw [← pow_add]
    congr 1
    omega
  rw [Decimal.value, zpow_neg, zpow_natCast, power]
  push_cast
  field_simp

theorem exists_target (moderate : Moderate number) {digits places : ℕ}
    (few : places ≤ 2)
    (rounds : single.RoundsTo ((digits : ℚ) / 10 ^ places) number) :
    ∃ target : Decimal, single.RoundsTo target.value number ∧
      10 ^ target.exponent ≤ number.value ∧
      number.value < 10 ^ (target.exponent + Shortest.enough single) ∧
      -3 ≤ target.exponent := by
  obtain ⟨low, high⟩ := moderate.value_bounds
  have enough : Shortest.enough single = 9 := rfl
  rw [enough]
  -- The more places the number has, the fewer of its digits are tried; from
  -- `2 ^ 23` on it is whole, and from `2 ^ 29` on tens are close enough.
  rcases lt_or_ge number.value (10 ^ (6 : ℤ)) with small | large
  · refine ⟨⟨digits * 10 ^ (3 - places), -(3 : ℕ)⟩, ?_, ?_, ?_, ?_⟩
    · rw [value_shifted digits (by omega : places ≤ 3)]
      exact rounds
    · norm_num at low ⊢
      linarith
    · norm_num at small ⊢
      exact small
    · exact Int.le_refl _
  rcases lt_or_ge number.value (2 ^ (23 : ℤ)) with small | large
  · refine ⟨⟨digits * 10 ^ (2 - places), -(2 : ℕ)⟩, ?_, ?_, ?_, ?_⟩
    · rw [value_shifted digits few]
      exact rounds
    · norm_num at low ⊢
      linarith
    · norm_num at small ⊢
      linarith
    · exact Int.neg_le_neg (by decide)
  rcases lt_or_ge number.value (2 ^ (29 : ℤ)) with small | large
  · obtain ⟨_, whole, known⟩ :=
      moderate.exists_whole 0 (by norm_num at large ⊢; exact large)
    have value : Decimal.value ⟨whole, 0⟩ = number.value := by
      rw [known, Decimal.value, zpow_zero, mul_one]
    refine ⟨⟨whole, 0⟩, ?_, ?_, ?_, ?_⟩
    · rw [value]
      exact moderate.canonical.roundsTo
    · norm_num at large ⊢
      linarith
    · norm_num at small ⊢
      linarith
    · exact (by decide : (-3 : ℤ) ≤ 0)
  · obtain ⟨tens, near⟩ := moderate.exists_ten large
    refine ⟨⟨tens, 1⟩, ?_, ?_, ?_, ?_⟩
    · rw [Decimal.value, zpow_one]
      exact near
    · norm_num at large ⊢
      linarith
    · norm_num at high ⊢
      linarith
    · exact (by decide : (-3 : ℤ) ≤ 1)

/-- The shortest form has at most three places, and is rounded to the number. -/
theorem decimal_spec (moderate : Moderate number) {digits places : ℕ}
    (few : places ≤ 2)
    (rounds : single.RoundsTo ((digits : ℚ) / 10 ^ places) number)
    (tie : Tie) :
    single.RoundsTo (Shortest.decimal tie single number).value number ∧
      -3 ≤ (Shortest.decimal tie single number).exponent := by
  have positive : 0 < number.significand :=
    lt_of_lt_of_le (by decide) moderate.normal
  obtain ⟨target, near, coarse, fine, least⟩ :=
    moderate.exists_target few rounds
  obtain ⟨value, exponent⟩ := Shortest.decimal_spec tie (by decide)
    (by decide) moderate.canonical positive near coarse fine
  exact ⟨value, least.trans exponent⟩

end Moderate

end BinaryFormat

end MeterLine
