import Mathlib
import MeterLine.Json.Numeral

/-!
# Reading numerals back

Digits are read up to the first character that is none, and their value is
exact as long as it stays below `2 ^ 64`.  So natural numbers are read back, and
the significand and the exponent of a numeral with a point are those that it was
written with.
-/

namespace MeterLine.Json

/-- What may stand behind a numeral without going on with it. -/
def Breaks (rest : List Char) : Prop :=
  ∀ character ∈ rest.head?, character.isDigit = false ∧ character ≠ '.' ∧
    character ≠ 'e' ∧ character ≠ 'E'

/-- The digits of a number without a superfluous zero before the others. -/
structure Leading (digits : List Char) : Prop where
  nonempty : digits ≠ []
  digit : ∀ character ∈ digits, character.isDigit = true
  nonzero : 1 < digits.length → digits.head? ≠ some '0'

theorem breaks_nil : Breaks [] := nofun

theorem spanDigits_append {digits rest : List Char}
    (digit : ∀ character ∈ digits, character.isDigit = true)
    (ends : ∀ character ∈ rest.head?, character.isDigit = false) :
    spanDigits (digits ++ rest) = (digits, rest) := by
  induction digits with
  | nil =>
      cases rest with
      | nil => rfl
      | cons character rest =>
          have other := ends character rfl
          simp [spanDigits, other]
  | cons character digits induction =>
      have here := digit character List.mem_cons_self
      have there := induction fun other member =>
        digit other (List.mem_cons_of_mem character member)
      simp [spanDigits, here, there]

theorem head?_toDigits {value : Nat} (positive : 0 < value) :
    (Nat.toDigits 10 value).head? ≠ some '0' := by
  induction value using Nat.strongRecOn with
  | ind value induction =>
      by_cases small : value < 10
      · rw [Nat.toDigits_of_lt_base small]
        simpa using Nat.pos_iff_ne_zero.mp positive
      · have large := Nat.le_of_not_lt small
        have front := induction (value / 10) (by omega) (by omega)
        rw [Nat.toDigits_of_base_le (by decide) large]
        cases known : Nat.toDigits 10 (value / 10) with
        | nil => exact (Nat.toDigits_ne_nil known).elim
        | cons first digits =>
            rw [known] at front
            exact front

theorem leading_toDigits (value : Nat) :
    Leading (Nat.toDigits 10 value) := by
  refine ⟨Nat.toDigits_ne_nil, ?_, ?_⟩
  · intro character member
    exact Nat.isDigit_of_mem_toDigits (by decide) (by decide) member
  · intro long
    apply head?_toDigits
    apply Nat.pos_of_ne_zero
    rintro rfl
    exact Nat.lt_irrefl 1 long

theorem le_ofDigitChars (digits : List Char) (value : Nat) :
    value ≤ Nat.ofDigitChars 10 digits value := by
  induction digits generalizing value with
  | nil => exact Nat.le_refl value
  | cons character digits induction =>
      rw [Nat.ofDigitChars_cons]
      exact Nat.le_trans (by omega) (induction _)

theorem fits_of_lt {character : Char} {digits : List Char} {value : Nat}
    (small : Nat.ofDigitChars 10 (character :: digits) value < 2 ^ 64) :
    Significand.fits value (digitValue character) = true ∧
      value * 10 + digitValue character =
        10 * value + (character.toNat - '0'.toNat) := by
  rw [Nat.ofDigitChars_cons] at small
  have bound := Nat.lt_of_le_of_lt (le_ofDigitChars digits _) small
  have zero : '0'.toNat = 48 := rfl
  constructor
  · simp only [Significand.fits, digitValue]
    apply decide_eq_true
    omega
  · simp only [digitValue]
    omega

theorem whole_eq {digits : List Char} {value : Nat}
    (small : Nat.ofDigitChars 10 digits value < 2 ^ 64) :
    Significand.whole value digits =
      ⟨Nat.ofDigitChars 10 digits value, 0⟩ := by
  induction digits generalizing value with
  | nil => rfl
  | cons character digits induction =>
      obtain ⟨fits, next⟩ := fits_of_lt small
      rw [Nat.ofDigitChars_cons] at small ⊢
      rw [Significand.whole, if_pos fits, next]
      exact induction small

theorem fraction_eq {places : List Char} {value : Nat} {exponent : Int}
    (small : Nat.ofDigitChars 10 places value < 2 ^ 64) :
    Significand.fraction ⟨value, exponent⟩ places =
      ⟨Nat.ofDigitChars 10 places value, exponent - places.length⟩ := by
  induction places generalizing value exponent with
  | nil => simp [Significand.fraction]
  | cons character places induction =>
      obtain ⟨fits, next⟩ := fits_of_lt small
      rw [Nat.ofDigitChars_cons] at small ⊢
      rw [Significand.fraction, if_pos fits, next, induction small]
      simp only [List.length_cons, Significand.mk.injEq, true_and]
      omega

theorem Breaks.ends {rest : List Char} (breaks : Breaks rest) :
    ∀ character ∈ rest.head?, character.isDigit = false :=
  fun character member => (breaks character member).1

theorem not_zero_first {digits more : List Char} (leading : Leading digits)
    {second : Char} : digits ≠ '0' :: second :: more := by
  rintro rfl
  exact leading.nonzero (Nat.succ_lt_succ (Nat.succ_pos _)) rfl

theorem readUnsigned_toDigits {value : Nat} (small : value < 2 ^ 64)
    {rest : List Char} (breaks : Breaks rest) :
    readUnsigned false (Nat.toDigits 10 value ++ rest) =
      some (.natural value, rest) := by
  have leading := leading_toDigits value
  have exact_ : Significand.whole 0 (Nat.toDigits 10 value) = ⟨value, 0⟩ := by
    rw [whole_eq] <;> rw [Nat.ofDigitChars_ten_toDigits]
    exact small
  rw [readUnsigned, spanDigits_append leading.digit breaks.ends]
  split
  case h_1 known =>
      exact (leading.nonempty (Prod.mk.inj known).1).elim
  case h_2 known =>
      exact (not_zero_first leading (Prod.mk.inj known).1).elim
  case h_3 known =>
      obtain ⟨rfl, rfl⟩ := Prod.mk.inj known
      simp only [exact_]
      split
      case h_1 => exact ((breaks _ rfl).2.1 rfl).elim
      case h_2 => exact ((breaks _ rfl).2.2.1 rfl).elim
      case h_3 => exact ((breaks _ rfl).2.2.2 rfl).elim
      case h_4 => rfl

/-- Places behind a point are read together with the digits before it. -/
theorem readUnsigned_point {digits places rest : List Char}
    (leading : Leading digits) (some_ : places ≠ [])
    (digit : ∀ character ∈ places, character.isDigit = true)
    (small : Nat.ofDigitChars 10 (digits ++ places) 0 < 2 ^ 64)
    (breaks : Breaks rest) (negative : Bool) :
    readUnsigned negative (digits ++ '.' :: places ++ rest) =
      (Significand.toDouble ⟨Nat.ofDigitChars 10 (digits ++ places) 0,
        -(places.length : Int)⟩).map fun value =>
          (.double negative value, rest) := by
  rw [Nat.ofDigitChars_append] at small ⊢
  have whole : Significand.whole 0 digits =
      ⟨Nat.ofDigitChars 10 digits 0, 0⟩ :=
    whole_eq (Nat.lt_of_le_of_lt (le_ofDigitChars places _) small)
  have point : spanDigits (digits ++ '.' :: (places ++ rest)) =
      (digits, '.' :: (places ++ rest)) :=
    spanDigits_append leading.digit (by rintro _ ⟨⟩; rfl)
  have behind := spanDigits_append digit breaks.ends
  have finish : ∀ significand : Significand,
      finishDouble negative significand rest =
        significand.toDouble.map fun value =>
          (.double negative value, rest) := by
    intro significand
    unfold finishDouble
    split
    case h_1 rest => exact ((breaks _ rfl).2.2.1 rfl).elim
    case h_2 rest => exact ((breaks _ rfl).2.2.2 rfl).elim
    case h_3 => rfl
  rw [List.append_assoc, List.cons_append, readUnsigned, point]
  split
  case h_1 known =>
      exact (leading.nonempty (Prod.mk.inj known).1).elim
  case h_2 known =>
      exact (not_zero_first leading (Prod.mk.inj known).1).elim
  case h_3 known =>
      obtain ⟨rfl, rfl⟩ := Prod.mk.inj known
      simp only [behind]
      rw [finish, whole, fraction_eq small, Int.zero_sub]

end MeterLine.Json
