import MeterLine.Number.Single
import MeterLine.Proofs.Number.Rounding

/-!
# Bit patterns of numbers

The pattern of a number gives the number back, and so does the pattern with a
sign.  So a single-precision number is known by its sign and by what its
quotient is rounded to.
-/

namespace MeterLine

namespace BinaryFormat

variable {format : BinaryFormat} {number : Dyadic}

theorem decode_encode (precise : 1 ≤ format.precision)
    (canonical : format.Canonical number) :
    format.decode (format.encode number) = number := by
  obtain ⟨significand, exponent⟩ := number
  obtain ⟨small, least, _, normal⟩ := canonical
  have power := Nat.two_pow_pred_mul_two precise
  have positive : 0 < 2 ^ (format.precision - 1) := Nat.pow_pos (by decide)
  simp only at small least normal
  simp only [decode, encode, Nat.pow_eq]
  rw [← power] at small
  generalize 2 ^ (format.precision - 1) = hidden at *
  split
  case isTrue low =>
      have exponent_ := normal.resolve_right (Nat.not_le_of_lt low)
      rw [Nat.div_eq_of_lt low, if_pos rfl, Nat.mod_eq_of_lt low, exponent_]
  case isFalse high =>
      have rest : significand - hidden < hidden := by omega
      have field : ((exponent - format.least + 1).toNat * hidden +
          (significand - hidden)) / hidden =
            (exponent - format.least + 1).toNat := by
        rw [Nat.mul_comm, Nat.mul_add_div positive, Nat.div_eq_of_lt rest,
          Nat.add_zero]
      have fraction : ((exponent - format.least + 1).toNat * hidden +
          (significand - hidden)) % hidden = significand - hidden := by
        rw [Nat.mul_add_mod_self_right, Nat.mod_eq_of_lt rest]
      rw [field, fraction, if_neg (by omega), Dyadic.mk.injEq]
      omega

theorem encode_lt_infinity (precise : 1 ≤ format.precision)
    (canonical : format.Canonical number) :
    format.encode number < format.infinity := by
  obtain ⟨significand, exponent⟩ := number
  obtain ⟨small, least, greatest, _⟩ := canonical
  have power := Nat.two_pow_pred_mul_two precise
  have positive : 0 < 2 ^ (format.precision - 1) := Nat.pow_pos (by decide)
  simp only at small least greatest
  simp only [encode, infinity, Nat.pow_eq]
  rw [← power] at small
  generalize 2 ^ (format.precision - 1) = hidden at *
  have field : (exponent - format.least + 1).toNat + 1 ≤
      (format.greatest - format.least + 2).toNat := by omega
  have fields := Nat.mul_le_mul_right hidden field
  rw [Nat.add_mul, Nat.one_mul] at fields
  split
  case isTrue low =>
      exact Nat.lt_of_lt_of_le low (Nat.le_trans (Nat.le_add_left _ _) fields)
  case isFalse high => omega

end BinaryFormat

namespace Single

section Signed

variable {bits : ℕ} (small : bits < 0x80000000) (negative : Bool)
include small

theorem toNat_signed :
    (signed negative bits).bits.toNat =
      bits + if negative then 0x80000000 else 0 := by
  apply UInt32.toNat_ofNat_of_lt'
  have size : UInt32.size = 0x100000000 := rfl
  split <;> omega

theorem negative_signed : (signed negative bits).negative = negative := by
  rw [Single.negative, toNat_signed small]
  cases negative
  · exact decide_eq_false (by simpa using small)
  · exact decide_eq_true (Nat.le_add_left _ _)

theorem pattern_signed :
    (signed negative bits).bits.toNat % 0x80000000 = bits := by
  rw [toNat_signed small]
  cases negative
  · exact Nat.mod_eq_of_lt small
  · rw [if_pos rfl, Nat.add_mod_right, Nat.mod_eq_of_lt small]

end Signed

variable {number : Dyadic}

theorem encode_lt (canonical : BinaryFormat.single.Canonical number) :
    BinaryFormat.single.encode number < 0x80000000 :=
  (BinaryFormat.encode_lt_infinity (by decide) canonical).trans (by decide)

theorem magnitude_signed (canonical : BinaryFormat.single.Canonical number)
    (negative : Bool) :
    (signed negative (BinaryFormat.single.encode number)).magnitude =
      .finite number := by
  have finite := BinaryFormat.encode_lt_infinity (by decide) canonical
  simp only [magnitude, pattern_signed (encode_lt canonical), if_pos finite,
    BinaryFormat.decode_encode (by decide : 1 ≤ BinaryFormat.single.precision)
      canonical]

theorem ofQuotient_of_roundsTo {numerator denominator : ℕ}
    (positive : 0 < numerator) (denominates : 0 < denominator)
    (rounds : BinaryFormat.single.RoundsTo ((numerator : ℚ) / denominator)
      number) (negative : Bool) :
    ofQuotient negative numerator denominator =
      signed negative (BinaryFormat.single.encode number) := by
  rw [ofQuotient, BinaryFormat.round_of_roundsTo (by decide) positive
    denominates rounds]

theorem ofQuotient_zero (negative : Bool) (denominator : ℕ) :
    ofQuotient negative 0 denominator = signed negative 0 := rfl

end Single

end MeterLine
