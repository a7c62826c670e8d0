import FlightUnits.Proofs.DoubleArithmetic
import Mathlib.Algebra.Order.Ring.Nat
import Mathlib.Data.Nat.Sqrt
import Mathlib.Tactic.Ring
import Mathlib.Tactic.Zify

/-!
# Magnitudes of doubles

A result that is too large for a double is infinite. How large a result can be follows from how
large the operands are and, where one divides, how small: a power of two that bounds the exact
result bounds the rounded one too, because powers of two are doubles themselves. With the factors of
the standard tables this bounds the values of converted quantities.
-/

namespace FlightUnits

open Standard

/-- A quotient of at most `b` is rounded to at most `b`. -/
lemma nearestQuotient_le_of_le_mul {n d b : Nat} (hd : 0 < d) (h : n ≤ b * d) :
    nearestQuotient n d ≤ b := by
  rcases Nat.lt_or_eq_of_le h with hlt | rfl
  · exact (nearestQuotient_le n d).trans ((Nat.div_lt_iff_lt_mul hd).mpr hlt)
  · exact (nearestQuotient_mul b hd).le

namespace Binary64

/-! ### Rounding -/

section Rounding

variable {n d k : Nat} (hd : 0 < d)

include hd

lemma roundQuotient_le_two_pow (h : n ≤ 2 ^ k * d) : roundQuotient n d ≤ 2 ^ k := by
  -- The bound is a multiple of the spacing, so that rounding cannot pass it.
  obtain ⟨c, hc⟩ : spacing (n / d) ∣ 2 ^ k := by
    by_cases hzero : n / d = 0
    · rw [hzero]
      exact one_dvd _
    · have hlog : 2 ^ (n / d).log2 ≤ 2 ^ k :=
        (Nat.log2_self_le hzero).trans (Nat.div_le_of_le_mul (Nat.mul_comm _ _ ▸ h))
      have hexponent := (Nat.pow_le_pow_iff_right one_lt_two).mp hlog
      rw [spacing, Nat.pow_eq]
      exact Nat.pow_dvd_pow 2 ((Nat.sub_le _ _).trans hexponent)
  have hsteps : nearestQuotient n (d * spacing (n / d)) ≤ c := by
    refine nearestQuotient_le_of_le_mul (Nat.mul_pos hd (spacing_pos _)) ?_
    calc
      n ≤ 2 ^ k * d := h
      _ = c * (d * spacing (n / d)) := by rw [hc]; ring
  calc
    roundQuotient n d ≤ c * spacing (n / d) := Nat.mul_le_mul_right _ hsteps
    _ = 2 ^ k := by rw [hc, Nat.mul_comm]

lemma two_pow_le_roundQuotient (h : 2 ^ k * d ≤ n) : 2 ^ k ≤ roundQuotient n d := by
  have hquotient : 2 ^ k ≤ n / d := (Nat.le_div_iff_mul_le hd).mpr h
  have hne : n / d ≠ 0 := ((Nat.two_pow_pos k).trans_le hquotient).ne'
  -- The least number of the binade is a multiple of the spacing as well.
  obtain ⟨c, hc⟩ : spacing (n / d) ∣ 2 ^ (n / d).log2 := by
    rw [spacing, Nat.pow_eq]
    exact Nat.pow_dvd_pow 2 (Nat.sub_le _ _)
  have hsteps : c ≤ nearestQuotient n (d * spacing (n / d)) := by
    refine le_trans ?_ (div_le_nearestQuotient _ _)
    rw [← Nat.div_div_eq_div_mul, Nat.le_div_iff_mul_le (spacing_pos _), Nat.mul_comm, ← hc]
    exact Nat.log2_self_le hne
  calc
    2 ^ k ≤ 2 ^ (n / d).log2 := Nat.pow_le_pow_right two_pos ((Nat.le_log2 hne).mpr hquotient)
    _ = c * spacing (n / d) := by rw [hc, Nat.mul_comm]
    _ ≤ roundQuotient n d := Nat.mul_le_mul_right _ hsteps

end Rounding

/-! ### Bounds -/

/-- A finite number with a magnitude of at most `2 ^ k`. -/
inductive AtMost (k : Nat) : Binary64 → Prop where
  | finite {s : Bool} {m : Magnitude} (h : m.units ≤ 2 ^ k * unitsInOne) : AtMost k (.finite s m)

/-- A finite number with a magnitude of at least `1 / 2 ^ k`. -/
inductive AtLeast (k : Nat) : Binary64 → Prop where
  | finite {s : Bool} {m : Magnitude} (h : unitsInOne ≤ m.units * 2 ^ k) : AtLeast k (.finite s m)

instance (k : Nat) : DecidablePred (AtMost k)
  | .finite _ m => decidable_of_iff (m.units ≤ 2 ^ k * unitsInOne) ⟨.finite, fun | .finite h => h⟩
  | .infinite _ | .nan _ => .isFalse nofun

instance (k : Nat) : DecidablePred (AtLeast k)
  | .finite _ m => decidable_of_iff (unitsInOne ≤ m.units * 2 ^ k) ⟨.finite, fun | .finite h => h⟩
  | .infinite _ | .nan _ => .isFalse nofun

section Bounds

variable {i j k n d : Nat} {x y : Binary64}

/-- The scale is binary: the number of units in one, and the number of units that is too large. -/
lemma scale_eq : unitsInOne = 2 ^ 1074 ∧ limit = 2 ^ (1024 + 1074) := by decide +kernel

lemma unitsInOne_pos : 0 < unitsInOne := (Nat.two_pow_pos _).trans_eq scale_eq.1.symm

lemma two_pow_mul_unitsInOne (k : Nat) : 2 ^ k * unitsInOne = 2 ^ (k + 1074) := by
  rw [scale_eq.1, pow_add]

lemma two_pow_mul_unitsInOne_lt (hk : k < 1024) : 2 ^ k * unitsInOne < limit := by
  have hpow {i j : Nat} (h : i < j) : 2 ^ (i + 1074) < 2 ^ (j + 1074) :=
    Nat.pow_lt_pow_right one_lt_two (Nat.add_lt_add_right h _)
  rw [two_pow_mul_unitsInOne, scale_eq.2]
  exact hpow hk

lemma AtMost.isFinite (h : x.AtMost k) : x.isFinite := by
  cases h
  rfl

lemma AtMost.not_isNaN (h : x.AtMost k) : ¬ x.isNaN := by
  cases h
  exact Bool.false_ne_true

lemma AtLeast.isFinite (h : x.AtLeast k) : x.isFinite := by
  cases h
  rfl

lemma AtLeast.not_isZero (h : x.AtLeast k) : ¬ x.isZero := by
  cases h with
  | finite h =>
    intro hzero
    rw [beq_iff_eq.mp hzero, Nat.zero_mul] at h
    exact absurd h unitsInOne_pos.not_ge

lemma AtMost.mono (h : x.AtMost i) (hi : i ≤ k) : x.AtMost k := by
  cases h with
  | finite h => exact .finite (h.trans (Nat.mul_le_mul_right _ (Nat.pow_le_pow_right two_pos hi)))

lemma atMost_ofQuotient (s : Bool) (hd : 0 < d) (hk : k < 1024)
    (h : n ≤ 2 ^ k * unitsInOne * d) : (ofQuotient s n d).AtMost k := by
  have hround : roundQuotient n d ≤ 2 ^ k * unitsInOne := by
    rw [two_pow_mul_unitsInOne] at h ⊢
    exact roundQuotient_le_two_pow hd h
  have hm : Magnitude.ofQuotient? n d = some _ :=
    dif_pos (hround.trans_lt (two_pow_mul_unitsInOne_lt hk))
  delta ofQuotient
  rw [hm]
  exact .finite hround

lemma units_of_ofQuotient? {m : Magnitude} (h : Magnitude.ofQuotient? n d = some m) :
    m.units = roundQuotient n d := by
  rw [Magnitude.ofQuotient?] at h
  split at h
  · obtain rfl := Option.some.inj h
    rfl
  · cases h

/-- A quotient that is not tiny stays so, unless it is too large. -/
lemma atLeast_ofQuotient (s : Bool) (hd : 0 < d) (hk : k ≤ 1074) (h : unitsInOne * d ≤ n * 2 ^ k)
    (hfinite : (ofQuotient s n d).isFinite) : (ofQuotient s n d).AtLeast k := by
  have hsplit : unitsInOne = 2 ^ (1074 - k) * 2 ^ k := by
    rw [← pow_add, Nat.sub_add_cancel hk, scale_eq.1]
  have hround : 2 ^ (1074 - k) ≤ roundQuotient n d := by
    refine two_pow_le_roundQuotient hd ?_
    refine Nat.le_of_mul_le_mul_right ?_ (Nat.two_pow_pos k)
    calc
      2 ^ (1074 - k) * d * 2 ^ k = unitsInOne * d := by rw [hsplit]; ring
      _ ≤ n * 2 ^ k := h
  delta ofQuotient at hfinite ⊢
  split at hfinite
  · next m hm =>
    refine .finite ?_
    rw [units_of_ofQuotient? hm, hsplit]
    exact Nat.mul_le_mul_right _ hround
  · exact nomatch hfinite

lemma atMost_ofInt {z : Int} (hk : k < 1024) (h : z.natAbs ≤ 2 ^ k) : (ofInt z).AtMost k := by
  refine atMost_ofQuotient _ one_pos hk ?_
  rw [Nat.mul_one]
  exact Nat.mul_le_mul_right _ h

lemma atLeast_ofInt {z : Int} (hz : z ≠ 0) (hfinite : (ofInt z).isFinite) :
    (ofInt z).AtLeast 0 := by
  refine atLeast_ofQuotient _ one_pos (Nat.zero_le _) ?_ hfinite
  rw [pow_zero, Nat.mul_one, Nat.mul_one]
  exact Nat.le_mul_of_pos_left _ (Int.natAbs_pos.mpr hz)

lemma AtMost.neg (h : x.AtMost k) : x.neg.AtMost k := by
  cases h with
  | finite h => exact .finite h

lemma natAbs_signed (s : Bool) (m : Magnitude) : (m.signed s).natAbs = m.units := by
  cases s
  · exact Int.natAbs_natCast _
  · exact (Int.natAbs_neg _).trans (Int.natAbs_natCast _)

/-- A number between whole numbers that are not below zero. -/
lemma atMost_of_le {m n : Int} (hm : 0 ≤ m) (hn : n ≤ 2 ^ k) (hlow : Number.leIntReal m x)
    (hhigh : Number.leRealInt x n) : x.AtMost k := by
  cases x with
  | finite s a =>
    have hpos : 0 ≤ a.signed s := by
      refine le_trans ?_ (of_decide_eq_true hlow)
      exact Int.mul_nonneg hm (Int.natCast_nonneg _)
    have hbound : a.signed s ≤ 2 ^ k * (unitsInOne : Int) := by
      refine (of_decide_eq_true hhigh).trans ?_
      exact Int.mul_le_mul_of_nonneg_right hn (Int.natCast_nonneg _)
    refine .finite ?_
    rw [← natAbs_signed s a]
    zify
    rw [abs_of_nonneg hpos]
    exact hbound
  | infinite s =>
    cases s with
    | false => exact nomatch hhigh
    | true => exact nomatch hlow
  | nan => exact nomatch hlow

lemma AtMost.add (hx : x.AtMost i) (hy : y.AtMost i) (hk : i + 1 < 1024) :
    (x.add y).AtMost (i + 1) := by
  cases hx with
  | @finite s a ha =>
    cases hy with
    | @finite t b hb =>
      rw [Binary64.add]
      split
      · exact .finite (Nat.zero_le _)
      · refine atMost_ofQuotient _ one_pos hk ?_
        calc
          (a.signed s + b.signed t).natAbs ≤ a.units + b.units :=
            natAbs_signed s a ▸ natAbs_signed t b ▸ Int.natAbs_add_le _ _
          _ ≤ 2 ^ i * unitsInOne + 2 ^ i * unitsInOne := Nat.add_le_add ha hb
          _ = 2 ^ (i + 1) * unitsInOne * 1 := by ring

lemma AtMost.mul (hx : x.AtMost i) (hy : y.AtMost j) (hk : i + j < 1024) :
    (x.mul y).AtMost (i + j) := by
  cases hx with
  | @finite s a ha =>
    cases hy with
    | @finite t b hb =>
      rw [Binary64.mul]
      refine atMost_ofQuotient _ unitsInOne_pos hk ?_
      calc
        a.units * b.units ≤ 2 ^ i * unitsInOne * (2 ^ j * unitsInOne) := Nat.mul_le_mul ha hb
        _ = 2 ^ (i + j) * unitsInOne * unitsInOne := by ring

lemma AtMost.div (hx : x.AtMost i) (hy : y.AtLeast j) (hk : i + j < 1024) :
    (x.div y).AtMost (i + j) := by
  cases hx with
  | @finite s a ha =>
    cases hy with
    | @finite t b hb =>
      have hpos : 0 < b.units := Nat.pos_of_mul_pos_right (unitsInOne_pos.trans_le hb)
      rw [Binary64.div, if_neg hpos.ne']
      refine atMost_ofQuotient _ hpos hk ?_
      calc
        a.units * unitsInOne ≤ 2 ^ i * unitsInOne * (b.units * 2 ^ j) := Nat.mul_le_mul ha hb
        _ = 2 ^ (i + j) * unitsInOne * b.units := by ring

/-- Only an exact root can be as large as the bound, and it has no further bit. -/
lemma two_mul_sqrt_add_le {square b : Nat} (h : square ≤ b * b) :
    2 * square.sqrt + (if square.sqrt * square.sqrt = square then 0 else 1) ≤ b * 2 := by
  have hroot : square.sqrt ≤ b := (Nat.sqrt_le_sqrt h).trans_eq (Nat.sqrt_eq b)
  rcases hroot.lt_or_eq with hlt | heq
  · split <;> omega
  · have hexact : square.sqrt * square.sqrt = square :=
      le_antisymm (Nat.sqrt_le square) (h.trans_eq (heq ▸ rfl))
    rw [if_pos hexact]
    omega

/-- The root of a number is not too large, if it is a number at all. -/
lemma AtMost.sqrt (hx : x.AtMost (2 * k)) (hnumber : ¬ x.sqrt.isNaN) (hk : k < 1024) :
    x.sqrt.AtMost k := by
  cases hx with
  | @finite s m hm =>
    rw [Binary64.sqrt] at hnumber ⊢
    split
    · next hzero => exact .finite (hzero.trans_le (Nat.zero_le _))
    · next hzero =>
      rw [if_neg hzero] at hnumber
      split
      · next hs =>
        rw [if_pos hs] at hnumber
        exact absurd rfl hnumber
      · refine atMost_ofQuotient _ two_pos hk ?_
        have hsquare : m.units * unitsInOne ≤ 2 ^ k * unitsInOne * (2 ^ k * unitsInOne) := by
          calc
            m.units * unitsInOne ≤ 2 ^ (2 * k) * unitsInOne * unitsInOne :=
              Nat.mul_le_mul_right _ hm
            _ = 2 ^ k * unitsInOne * (2 ^ k * unitsInOne) := by ring
        exact two_mul_sqrt_add_le hsquare

lemma AtMost.roundPlaces (hx : x.AtMost k) (hk : k < 1024) (places : Nat) :
    (x.roundPlaces places).AtMost k := by
  cases hx with
  | @finite s m hm =>
    rw [Binary64.roundPlaces]
    refine atMost_ofQuotient s (Nat.pow_pos (by decide)) hk ?_
    have hsteps : nearestQuotient (m.units * Nat.pow 10 places) unitsInOne ≤
        2 ^ k * Nat.pow 10 places := by
      refine nearestQuotient_le_of_le_mul unitsInOne_pos ?_
      calc
        m.units * Nat.pow 10 places ≤ 2 ^ k * unitsInOne * Nat.pow 10 places :=
          Nat.mul_le_mul_right _ hm
        _ = 2 ^ k * Nat.pow 10 places * unitsInOne := by ring
    calc
      _ ≤ 2 ^ k * Nat.pow 10 places * unitsInOne := Nat.mul_le_mul_right _ hsteps
      _ = 2 ^ k * unitsInOne * Nat.pow 10 places := by ring

lemma isZero_ofQuotient_zero (s : Bool) (hd : 0 < d) : (ofQuotient s 0 d).isZero := by
  have hround : roundQuotient 0 d = 0 := by
    have hsteps : nearestQuotient 0 (d * spacing (0 / d)) ≤ 0 :=
      nearestQuotient_le_of_le_mul (Nat.mul_pos hd (spacing_pos _)) (Nat.zero_le _)
    rw [roundQuotient, Nat.le_zero.mp hsteps, Nat.zero_mul]
  have hm : Magnitude.ofQuotient? 0 d = some _ := dif_pos (hround.trans_lt limit_pos)
  delta ofQuotient
  rw [hm]
  exact beq_iff_eq.mpr hround

/-- A number that is rounded to decimal places is zero or at least one step. -/
lemma atLeast_roundPlaces {places : Nat} (hstep : Nat.pow 10 places ≤ 2 ^ k) (hk : k ≤ 1074)
    (hfinite : (x.roundPlaces places).isFinite) (hne : ¬ (x.roundPlaces places).isZero) :
    (x.roundPlaces places).AtLeast k := by
  cases x with
  | finite s m =>
    rw [Binary64.roundPlaces] at hfinite hne ⊢
    have hten : 0 < Nat.pow 10 places := Nat.pow_pos (by decide)
    rcases Nat.eq_zero_or_pos (nearestQuotient (m.units * Nat.pow 10 places) unitsInOne) with
      hzero | hpos
    · rw [hzero, Nat.zero_mul] at hne
      exact absurd (isZero_ofQuotient_zero s hten) hne
    · refine atLeast_ofQuotient s hten hk ?_ hfinite
      exact Nat.mul_le_mul (Nat.le_mul_of_pos_left _ hpos) hstep
  | infinite | nan => exact nomatch hfinite

/-! A finite result comes of finite operands. -/

lemma isFinite_of_add (h : (x.add y).isFinite) : x.isFinite ∧ y.isFinite := by
  cases x with
  | finite s a =>
    cases y with
    | finite => exact ⟨rfl, rfl⟩
    | infinite | nan => exact nomatch h
  | infinite s =>
    cases y with
    | infinite t =>
      rw [Binary64.add] at h
      split at h <;> exact nomatch h
    | finite | nan => exact nomatch h
  | nan => exact nomatch h

lemma isFinite_of_mul (h : (x.mul y).isFinite) : x.isFinite ∧ y.isFinite := by
  cases x with
  | finite s a =>
    cases y with
    | finite => exact ⟨rfl, rfl⟩
    | infinite t =>
      rw [Binary64.mul] at h
      split at h <;> exact nomatch h
    | nan => exact nomatch h
  | infinite s =>
    cases y with
    | finite t b =>
      rw [Binary64.mul] at h
      split at h <;> exact nomatch h
    | infinite | nan => exact nomatch h
  | nan => exact nomatch h

lemma isFinite_of_div (hy : y.isFinite) (h : (x.div y).isFinite) : x.isFinite := by
  cases y with
  | finite t b =>
    cases x with
    | finite => rfl
    | infinite | nan => exact nomatch h
  | infinite | nan => exact nomatch hy

lemma isFinite_of_roundPlaces {places : Nat} (h : (x.roundPlaces places).isFinite) :
    x.isFinite := by
  cases x with
  | finite => rfl
  | infinite | nan => exact nomatch h

end Bounds

end Binary64

/-! ### Conversions -/

section Conversions

open Binary64

variable {i j : Nat} {x : Binary64} {u : MeasureUnit} {q : Quantity Binary64}

namespace Standard

lemma bounds_factor? (u : MeasureUnit) : ∀ k ∈ factor? u, k.AtMost 22 ∧ k.AtLeast 17 := by
  cases u <;> decide +kernel

/-- The freezing point of water in degrees Fahrenheit. -/
lemma atMost_freezing : (ofInt 32).AtMost 5 := atMost_ofInt (by decide) (by decide)

/-- Ratios of degrees; the bound is a wide one. -/
lemma atMost_degree {m n : Int} (hm : m.natAbs ≤ 9) (hn : n.natAbs ≤ 9) (hne : n ≠ 0) :
    ((ofInt m).div (ofInt n)).AtMost 4 := by
  have hsmall {z : Int} (hz : z.natAbs ≤ 9) : (ofInt z).AtMost 4 :=
    atMost_ofInt (by decide) (hz.trans (by decide))
  exact (hsmall hm).div (atLeast_ofInt hne (hsmall hn).isFinite) (by decide)

lemma atMost_doubleToBase (hx : x.AtMost i) (hleast : 5 ≤ i) (hi : i + 22 < 1024) :
    (doubleToBase u x).AtMost (i + 22) := by
  rw [doubleToBase]
  split
  · next k hk => exact hx.mul (bounds_factor? u k hk).1 hi
  · have habove := hx.add (atMost_freezing.neg.mono hleast) (by omega)
    have hdegree := atMost_degree (m := 5) (n := 9) (by decide) (by decide) (by decide)
    exact (hdegree.mul habove (by omega)).mono (by omega)

lemma atMost_doubleFromBase (hx : x.AtMost i) (hleast : 5 ≤ i) (hi : i + 17 < 1024) :
    (doubleFromBase u x).AtMost (i + 17) := by
  rw [doubleFromBase]
  split
  · next k hk => exact hx.div (bounds_factor? u k hk).2 hi
  · have hdegree := atMost_degree (m := 9) (n := 5) (by decide) (by decide) (by decide)
    have hscaled := hdegree.mul hx (by omega)
    exact (hscaled.add (atMost_freezing.mono (by omega)) (by omega)).mono (by omega)

lemma isFinite_of_doubleToBase (h : (doubleToBase u x).isFinite) : x.isFinite := by
  rw [doubleToBase] at h
  split at h
  · exact (isFinite_of_mul h).1
  · exact (isFinite_of_add (isFinite_of_mul h).2).1

lemma isFinite_of_doubleFromBase (h : (doubleFromBase u x).isFinite) : x.isFinite := by
  rw [doubleFromBase] at h
  split at h
  · next k hk => exact isFinite_of_div (bounds_factor? u k hk).1.isFinite h
  · exact (isFinite_of_mul (isFinite_of_add h).1).2

end Standard

namespace Quantity

lemma atMost_inUnit (hq : q.value.AtMost i) (hleast : 5 ≤ i) (hi : i + 39 < 1024) :
    (q.inUnit u).value.AtMost (i + 39) := by
  rw [inUnit]
  split
  · exact hq.mono (by omega)
  · have hbase := atMost_doubleToBase (u := q.unit) hq hleast (by omega)
    have hvalue := atMost_doubleFromBase (u := u) hbase (by omega) hi
    exact hvalue.roundPlaces hi convertedPlaces

/-- A conversion either keeps a value or rounds it, so that it makes none tiny. -/
lemma atLeast_inUnit (hq : q.value.AtLeast j) (hleast : 47 ≤ j) (hj : j ≤ 1074)
    (hfinite : (q.inUnit u).value.isFinite) (hne : ¬ (q.inUnit u).value.isZero) :
    (q.inUnit u).value.AtLeast j := by
  have hstep : Nat.pow 10 convertedPlaces ≤ 2 ^ j :=
    le_trans (by decide) (Nat.pow_le_pow_right two_pos hleast)
  rw [inUnit] at hfinite hne ⊢
  split at hfinite
  · next h =>
    rw [if_pos h]
    exact hq
  · next h =>
    rw [if_neg h] at hne ⊢
    exact atLeast_roundPlaces hstep hj hfinite hne

lemma isFinite_of_inUnit (h : (q.inUnit u).value.isFinite) : q.value.isFinite := by
  rw [inUnit] at h
  split at h
  · exact h
  · exact isFinite_of_doubleToBase (isFinite_of_doubleFromBase (isFinite_of_roundPlaces h))

end Quantity

end Conversions

end FlightUnits
