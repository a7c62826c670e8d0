import FlightUnits.Scalar
import Mathlib.Algebra.Order.Field.Rat
import Mathlib.Algebra.Order.Field.Basic
import Mathlib.Data.Rat.Lemmas
import Mathlib.Tactic.FieldSimp
import Mathlib.Tactic.Linarith
import Mathlib.Tactic.Ring

/-!
# Rounding to decimal places

`nearestQuotient n d` is within one half of `n / d`, so a rational rounded to decimal places is
within half a step of the grid of what it was.
-/

namespace FlightUnits

lemma nearestQuotient_error (n : Nat) {d : Nat} (hd : 0 < d) :
    2 * n ≤ 2 * (nearestQuotient n d * d) + d ∧ 2 * (nearestQuotient n d * d) ≤ 2 * n + d := by
  have hdiv : n / d * d + n % d = n := Nat.div_add_mod' n d
  have hmod : n % d < d := Nat.mod_lt n hd
  unfold nearestQuotient
  dsimp only
  split
  · omega
  · split
    · rw [Nat.add_mul]
      omega
    · rcases Nat.mod_two_eq_zero_or_one (n / d) with h | h <;> rw [h, Nat.add_mul] <;> omega

lemma abs_nearestQuotient_sub_le (n : Nat) {d : Nat} (hd : 0 < d) :
    |(nearestQuotient n d : Rat) - n / d| ≤ 1 / 2 := by
  obtain ⟨hlow, hhigh⟩ := nearestQuotient_error n hd
  have hd' : (0 : Rat) < d := Nat.cast_pos.mpr hd
  have hlow' : (2 : Rat) * n ≤ 2 * (nearestQuotient n d * d) + d := by exact_mod_cast hlow
  have hhigh' : (2 : Rat) * (nearestQuotient n d * d) ≤ 2 * n + d := by exact_mod_cast hhigh
  rw [abs_le]
  constructor
  · rw [neg_le_sub_iff_le_add, div_le_iff₀ hd']
    linarith
  · rw [sub_le_iff_le_add, ← sub_le_iff_le_add', le_div_iff₀ hd']
    linarith

namespace Scalar

lemma roundRat_eq_div (places : Nat) (x : Rat) :
    roundRat places x =
      x.num.sign * (nearestQuotient (x.num.natAbs * 10 ^ places) x.den / 10 ^ places) := by
  rw [roundRat, Rat.mkRat_eq_div, Nat.pow_eq]
  push_cast
  rw [mul_div_assoc]

lemma roundRat_neg (places : Nat) (x : Rat) : roundRat places (-x) = -roundRat places x := by
  rw [roundRat_eq_div, roundRat_eq_div, Rat.num_neg_eq_neg_num, Rat.den_neg_eq_den, Int.natAbs_neg,
    Int.sign_neg, Int.cast_neg, neg_mul]

lemma eq_sign_mul_div (places : Nat) (x : Rat) :
    x = x.num.sign * (((x.num.natAbs * 10 ^ places : Nat) : Rat) / x.den / 10 ^ places) := by
  have hnum : (x.num : Rat) = x.num.sign * x.num.natAbs := by
    rw [← Int.cast_natCast, ← Int.cast_mul, Int.sign_mul_natAbs]
  have hpow : (10 : Rat) ^ places ≠ 0 := by positivity
  conv_lhs => rw [← Rat.num_div_den x, hnum]
  push_cast
  field_simp

lemma abs_sign_le_one (n : Int) : |(n.sign : Rat)| ≤ 1 := by
  rcases Int.sign_trichotomy n with h | h | h <;> rw [h] <;> decide +kernel

/-- A rational rounded to decimal places is within half a step of what it was. -/
theorem abs_roundRat_sub_le (places : Nat) (x : Rat) :
    |roundRat places x - x| ≤ 1 / 2 / 10 ^ places := by
  have hpow : (0 : Rat) < 10 ^ places := by positivity
  have hstep := abs_nearestQuotient_sub_le (x.num.natAbs * 10 ^ places) x.den_pos
  have he : roundRat places x - x =
      x.num.sign * ((nearestQuotient (x.num.natAbs * 10 ^ places) x.den -
        ((x.num.natAbs * 10 ^ places : Nat) : Rat) / x.den) / 10 ^ places) := by
    rw [sub_div, mul_sub, ← roundRat_eq_div, ← eq_sign_mul_div]
  rw [he, abs_mul, abs_div, abs_of_pos hpow]
  calc
    _ ≤ 1 * (1 / 2 / 10 ^ places) :=
      mul_le_mul (abs_sign_le_one _) (div_le_div_of_nonneg_right hstep hpow.le) (by positivity)
        zero_le_one
    _ = _ := one_mul _

end Scalar

end FlightUnits
