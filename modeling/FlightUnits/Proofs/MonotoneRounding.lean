import FlightUnits.Proofs.ShortestDecimal

/-!
# Rounding preserves order

A larger quotient is not rounded to a smaller number, ties included. So neither rounding to the
nearest magnitude nor rounding to decimal places changes the order of two numbers.
-/

namespace FlightUnits

section Quotients

variable {n n' d d' : Nat}

/-- The quotients decide where they differ, and the remainders where they do not. -/
lemma nearestQuotient_mono (h : n ≤ n') : nearestQuotient n d ≤ nearestQuotient n' d := by
  have hdiv : n / d ≤ n' / d := Nat.div_le_div_right h
  rcases hdiv.lt_or_eq with hlt | heq
  · calc
      nearestQuotient n d ≤ n / d + 1 := nearestQuotient_le n d
      _ ≤ n' / d := hlt
      _ ≤ nearestQuotient n' d := div_le_nearestQuotient n' d
  · have hmod : n % d ≤ n' % d := by
      have hn := Nat.div_add_mod n d
      have hn' := Nat.div_add_mod n' d
      rw [heq] at hn
      omega
    unfold nearestQuotient
    dsimp only
    rw [heq]
    split_ifs <;> omega

theorem nearestQuotient_le_nearestQuotient (hd : 0 < d) (hd' : 0 < d') (h : n * d' ≤ n' * d) :
    nearestQuotient n d ≤ nearestQuotient n' d' := by
  rw [← nearestQuotient_mul_left hd', ← nearestQuotient_mul_left hd n', Nat.mul_comm d d',
    Nat.mul_comm d' n, Nat.mul_comm d n']
  exact nearestQuotient_mono h

lemma nearestQuotient_congr (hd : 0 < d) (hd' : 0 < d') (h : n * d' = n' * d) :
    nearestQuotient n d = nearestQuotient n' d' :=
  le_antisymm (nearestQuotient_le_nearestQuotient hd hd' h.le)
    (nearestQuotient_le_nearestQuotient hd' hd h.ge)

namespace Binary64

/-- Within a binade there is one grid, and between two binades there is a power of two. -/
theorem roundQuotient_mono (hd : 0 < d) (h : n ≤ n') : roundQuotient n d ≤ roundQuotient n' d := by
  have hdiv : n / d ≤ n' / d := Nat.div_le_div_right h
  by_cases hspacing : spacing (n / d) = spacing (n' / d)
  · rw [roundQuotient, roundQuotient, hspacing]
    exact Nat.mul_le_mul_right _ (nearestQuotient_mono h)
  · have hne : n' / d ≠ 0 := by
      intro hzero
      rw [hzero] at hdiv
      exact hspacing (by rw [Nat.le_zero.mp hdiv, hzero])
    have hparted : n / d < 2 ^ (n' / d).log2 := by
      by_contra hge
      rw [not_lt] at hge
      have hlog : (n / d).log2 = (n' / d).log2 :=
        (Nat.log2_eq_iff ((Nat.two_pow_pos _).trans_le hge).ne').mpr
          ⟨hge, hdiv.trans_lt Nat.lt_log2_self⟩
      exact hspacing (by rw [spacing, spacing, hlog])
    calc
      roundQuotient n d ≤ 2 ^ (n' / d).log2 :=
        roundQuotient_le_two_pow hd ((Nat.div_lt_iff_lt_mul hd).mp hparted).le
      _ ≤ roundQuotient n' d :=
        two_pow_le_roundQuotient hd ((Nat.le_div_iff_mul_le hd).mp (Nat.log2_self_le hne))

end Binary64

end Quotients

namespace Scalar

variable {places : Nat} {x y : Rat}

lemma roundRat_of_nonneg (hx : 0 ≤ x) : roundRat places x =
    (nearestQuotient (x.num.natAbs * 10 ^ places) x.den : Rat) / 10 ^ places := by
  rw [roundRat_eq_div]
  rcases hx.lt_or_eq with hpos | rfl
  · rw [Int.sign_eq_one_of_pos (Rat.num_pos.mpr hpos), Int.cast_one, one_mul]
  · simp [nearestQuotient]

lemma roundRat_nonneg (hx : 0 ≤ x) : 0 ≤ roundRat places x := by
  rw [roundRat_of_nonneg hx]
  positivity

lemma roundRat_le_roundRat_of_nonneg (hx : 0 ≤ x) (h : x ≤ y) :
    roundRat places x ≤ roundRat places y := by
  have hy : 0 ≤ y := hx.trans h
  have hcross : x.num.natAbs * y.den ≤ y.num.natAbs * x.den := by
    zify
    rw [abs_of_nonneg (Rat.num_nonneg.mpr hx), abs_of_nonneg (Rat.num_nonneg.mpr hy)]
    exact (Rat.le_iff x y).mp h
  have hsteps : nearestQuotient (x.num.natAbs * 10 ^ places) x.den ≤
      nearestQuotient (y.num.natAbs * 10 ^ places) y.den := by
    refine nearestQuotient_le_nearestQuotient x.den_pos y.den_pos ?_
    rw [Nat.mul_right_comm, Nat.mul_right_comm _ _ x.den]
    exact Nat.mul_le_mul_right _ hcross
  rw [roundRat_of_nonneg hx, roundRat_of_nonneg hy]
  gcongr

/-- Rounding to decimal places preserves order. -/
theorem roundRat_mono (h : x ≤ y) : roundRat places x ≤ roundRat places y := by
  rcases le_total 0 x with hx | hx
  · exact roundRat_le_roundRat_of_nonneg hx h
  · have hx' : roundRat places x = -roundRat places (-x) := by rw [roundRat_neg, neg_neg]
    rcases le_total 0 y with hy | hy
    · calc
        roundRat places x ≤ 0 := hx' ▸ neg_nonpos.mpr (roundRat_nonneg (neg_nonneg.mpr hx))
        _ ≤ roundRat places y := roundRat_nonneg hy
    · have hy' : roundRat places y = -roundRat places (-y) := by rw [roundRat_neg, neg_neg]
      rw [hx', hy', neg_le_neg_iff]
      exact roundRat_le_roundRat_of_nonneg (neg_nonneg.mpr hy) (neg_le_neg h)

end Scalar

end FlightUnits
