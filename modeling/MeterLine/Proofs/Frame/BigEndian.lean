import MeterLine.Frame.Field
import Mathlib.Tactic.Ring
import Mathlib.Tactic.Linarith

/-!
# Numbers with the most significant octet first

Every row of octets stands for one natural number below a power of 256, and for
one number in two's complement.  Writing a number gives back the octets that
stand for it, so that octets of one length and numbers of that length
correspond to each other one to one.
-/

namespace MeterLine

namespace Bytes

theorem foldl_toNatBig (value : ℕ) (octets : Bytes) :
    octets.foldl (fun value octet => value * 256 + octet.toNat) value =
      value * 256 ^ octets.length + octets.toNatBig := by
  induction octets generalizing value with
  | nil => simp [toNatBig]
  | cons octet octets induction =>
      have first := induction octet.toNat
      rw [toNatBig, List.foldl_cons, List.foldl_cons, induction, Nat.zero_mul,
        Nat.zero_add, first, List.length_cons]
      ring

theorem toNatBig_cons (octet : UInt8) (octets : Bytes) :
    toNatBig (octet :: octets) =
      octet.toNat * 256 ^ octets.length + octets.toNatBig := by
  rw [toNatBig, List.foldl_cons, Nat.zero_mul, Nat.zero_add, foldl_toNatBig]

theorem toNatBig_lt (octets : Bytes) :
    octets.toNatBig < 256 ^ octets.length := by
  induction octets with
  | nil => simp [toNatBig]
  | cons octet octets induction =>
      have small := octet.toNat_lt
      rw [toNatBig_cons, List.length_cons, pow_succ']
      calc
        octet.toNat * 256 ^ octets.length + toNatBig octets
            < (octet.toNat + 1) * 256 ^ octets.length := by
          rw [Nat.succ_mul]
          omega
        _ ≤ 256 * 256 ^ octets.length :=
          Nat.mul_le_mul_right _ (by omega)

theorem toNatBig_cons_div (octet : UInt8) (octets : Bytes) :
    toNatBig (octet :: octets) / 256 ^ octets.length = octet.toNat := by
  rw [toNatBig_cons, Nat.mul_comm, Nat.mul_add_div (by positivity),
    Nat.div_eq_of_lt (toNatBig_lt octets), Nat.add_zero]

/-- Rows of one length that stand for the same number are the same. -/
theorem toNatBig_injective {left right : Bytes}
    (length : left.length = right.length)
    (same : left.toNatBig = right.toNatBig) : left = right := by
  induction left generalizing right with
  | nil => exact (List.eq_nil_of_length_eq_zero length.symm).symm
  | cons octet octets induction =>
      cases right with
      | nil => cases length
      | cons other others =>
          have lengths : octets.length = others.length :=
            Nat.succ.inj length
          have first : octet.toNat = other.toNat := by
            rw [← toNatBig_cons_div octet octets, same, lengths,
              toNatBig_cons_div]
          have rest : toNatBig octets = toNatBig others := by
            rw [toNatBig_cons, toNatBig_cons, lengths, first] at same
            exact Nat.add_left_cancel same
          rw [UInt8.toNat_inj.mp first, induction lengths rest]

def ofNatBig : ℕ → ℕ → Bytes
  | 0, _ => []
  | width + 1, value =>
      UInt8.ofNat (value / 256 ^ width) :: ofNatBig width value

@[simp] theorem length_ofNatBig (width value : ℕ) :
    (ofNatBig width value).length = width := by
  induction width with
  | zero => rfl
  | succ width induction => rw [ofNatBig, List.length_cons, induction]

theorem toNatBig_ofNatBig (width value : ℕ) :
    (ofNatBig width value).toNatBig = value % 256 ^ width := by
  induction width with
  | zero => simp [ofNatBig, toNatBig, Nat.mod_one]
  | succ width induction =>
      have digit : (UInt8.ofNat (value / 256 ^ width)).toNat =
          value / 256 ^ width % 256 :=
        UInt8.toNat_ofNat'
      rw [ofNatBig, toNatBig_cons, length_ofNatBig, induction, digit,
        Nat.mod_pow_succ]
      ring

theorem ofNatBig_toNatBig (octets : Bytes) :
    ofNatBig octets.length octets.toNatBig = octets := by
  apply toNatBig_injective (length_ofNatBig _ _)
  rw [toNatBig_ofNatBig, Nat.mod_eq_of_lt octets.toNatBig_lt]

def ofIntBig (width : ℕ) (value : ℤ) : Bytes :=
  ofNatBig width (value % 256 ^ width).toNat

@[simp] theorem length_ofIntBig (width : ℕ) (value : ℤ) :
    (ofIntBig width value).length = width :=
  length_ofNatBig _ _

theorem toNatBig_ofIntBig (width : ℕ) (value : ℤ) :
    ((ofIntBig width value).toNatBig : ℤ) = value % 256 ^ width := by
  have positive : (0 : ℤ) < 256 ^ width := by positivity
  have below := Int.emod_lt_of_pos value positive
  have natural := Int.emod_nonneg value positive.ne'
  rw [ofIntBig, toNatBig_ofNatBig, Int.natCast_emod, Int.toNat_of_nonneg natural]
  exact_mod_cast Int.emod_emod_of_dvd _ dvd_rfl

end Bytes

/-- Numbers that have a two's complement of a number of octets. -/
def Signed (width : ℕ) (value : ℤ) : Prop :=
  -(256 ^ width) ≤ 2 * value ∧ 2 * value < 256 ^ width

instance (width : ℕ) : DecidablePred (Signed width) := fun _ =>
  inferInstanceAs (Decidable (_ ∧ _))

theorem signed_signedOfNat {width value : ℕ} (below : value < 256 ^ width) :
    Signed width (signedOfNat width value) := by
  have limit : ((256 ^ width : ℕ) : ℤ) = 256 ^ width := Nat.cast_pow _ _
  unfold Signed signedOfNat
  rw [Nat.pow_eq, ← limit]
  split <;> omega

theorem emod_signedOfNat {width value : ℕ} (below : value < 256 ^ width) :
    signedOfNat width value % 256 ^ width = value := by
  have limit : ((256 ^ width : ℕ) : ℤ) = 256 ^ width := Nat.cast_pow _ _
  have natural : (value : ℤ) % 256 ^ width = value :=
    Int.emod_eq_of_lt (Int.natCast_nonneg _) (by omega)
  rw [signedOfNat, Nat.pow_eq]
  split
  · exact natural
  · rw [limit, Int.sub_emod_right, natural]

theorem Signed.eq_of_emod {width : ℕ} {left right : ℤ}
    (first : Signed width left) (second : Signed width right)
    (same : left % 256 ^ width = right % 256 ^ width) : left = right := by
  have apart : (256 : ℤ) ^ width ∣ left - right :=
    Int.dvd_of_emod_eq_zero (Int.emod_eq_emod_iff_emod_sub_eq_zero.mp same)
  have near : |left - right| < 256 ^ width := by
    obtain ⟨lower, upper⟩ := first
    obtain ⟨otherLower, otherUpper⟩ := second
    rw [abs_lt]
    constructor <;> linarith
  exact Int.sub_eq_zero.mp (Int.eq_zero_of_abs_lt_dvd apart near)

theorem signedOfNat_toNatBig_eq_iff (octets : Bytes) (value : ℤ) :
    signedOfNat octets.length octets.toNatBig = value ↔
      Signed octets.length value ∧
        Bytes.ofIntBig octets.length value = octets := by
  have below := octets.toNatBig_lt
  constructor
  · rintro rfl
    refine ⟨signed_signedOfNat below, ?_⟩
    rw [Bytes.ofIntBig, emod_signedOfNat below, Int.toNat_natCast,
      Bytes.ofNatBig_toNatBig]
  · rintro ⟨signed, written⟩
    have shown := Bytes.toNatBig_ofIntBig octets.length value
    rw [written] at shown
    apply (signed_signedOfNat below).eq_of_emod signed
    rw [emod_signedOfNat below, shown]

end MeterLine
