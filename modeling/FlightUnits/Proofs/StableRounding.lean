import FlightUnits.Proofs.MonotoneRounding
import FlightUnits.Proofs.PrintedNumbers

/-!
# Rounding doubles to the places of converted values

A double that is rounded to decimal places goes to the decimal grid first and back to the grid of
doubles then. From 64 on, the spacing of doubles is wider than a step of the grid of fourteen
places, and the way back leads to the double itself. Below 64 it is narrower, and the double that is
reached lies closer to its decimal than half a step, so that it is rounded to the same decimal
again. So converted values are rounded once and for all.
-/

namespace FlightUnits

namespace Binary64

/-! ### Magnitudes -/

/-- The units of a magnitude that is rounded to decimal places. -/
def roundedUnits (places u : Nat) : Nat :=
  roundQuotient (nearestQuotient (u * Nat.pow 10 places) unitsInOne * unitsInOne)
    (Nat.pow 10 places)

section Units

variable {k u v places : Nat}

lemma roundedUnits_mono (h : u ≤ v) : roundedUnits places u ≤ roundedUnits places v := by
  refine roundQuotient_mono (ten_pow_pos places) ?_
  exact Nat.mul_le_mul_right _ (nearestQuotient_mono (Nat.mul_le_mul_right _ h))

/-- A quotient is rounded by half a spacing at most. -/
lemma roundQuotient_error (n : Nat) {d : Nat} (hd : 0 < d) :
    2 * n ≤ 2 * (roundQuotient n d * d) + d * spacing (n / d) ∧
      2 * (roundQuotient n d * d) ≤ 2 * n + d * spacing (n / d) := by
  have hsteps : roundQuotient n d * d =
      nearestQuotient n (d * spacing (n / d)) * (d * spacing (n / d)) := by
    rw [roundQuotient, Nat.mul_assoc, Nat.mul_comm (spacing _)]
  rw [hsteps]
  exact nearestQuotient_error n (Nat.mul_pos hd (spacing_pos _))

lemma two_pow_le_spacing (h : 2 ^ k ≤ u) : 2 ^ (k - 52) ≤ spacing u := by
  have hlog : k ≤ u.log2 := (Nat.le_log2 ((Nat.two_pow_pos k).trans_le h).ne').mpr h
  exact Nat.pow_le_pow_right two_pos (by omega)

lemma spacing_le_two_pow (h : u < 2 ^ k) : spacing u ≤ 2 ^ (k - 53) := by
  refine Nat.pow_le_pow_right two_pos ?_
  rcases eq_or_ne u 0 with rfl | hne
  · exact Nat.zero_le _
  · have hlog : u.log2 < k := (Nat.log2_lt hne).mpr h
    omega

lemma spacing_two_pow_dvd (k : Nat) : spacing (2 ^ k) ∣ 2 ^ k := by
  rw [spacing, Nat.pow_eq, Nat.log2_two_pow]
  exact Nat.pow_dvd_pow 2 (Nat.sub_le k 52)

/-- A step of the decimal grid lies between the spacings of the doubles below 64 and from 64 on. -/
lemma step_between_spacings :
    Nat.pow 10 convertedPlaces * 2 ^ (1080 - 53) < unitsInOne ∧
      unitsInOne < Nat.pow 10 convertedPlaces * 2 ^ (1080 - 52) ∧
      64 * unitsInOne = 2 ^ 1080 := by
  decide +kernel

/-- Doubles from 64 on are so far apart that the decimal next to one of them leads back to it. -/
lemma roundedUnits_of_le (hu : spacing u ∣ u) (h : 64 * unitsInOne ≤ u) :
    roundedUnits convertedPlaces u = u := by
  have hten := ten_pow_pos convertedPlaces
  obtain ⟨-, hstep, hbinade⟩ := step_between_spacings
  obtain ⟨hlow, hhigh⟩ := nearestQuotient_error (u * Nat.pow 10 convertedPlaces) unitsInOne_pos
  have hsteps : 64 * Nat.pow 10 convertedPlaces ≤
      nearestQuotient (u * Nat.pow 10 convertedPlaces) unitsInOne := by
    refine le_trans ?_ (div_le_nearestQuotient _ _)
    rw [Nat.le_div_iff_mul_le unitsInOne_pos, Nat.mul_right_comm]
    exact Nat.mul_le_mul_right _ h
  have hlarge : 64 * unitsInOne ≤ nearestQuotient (u * Nat.pow 10 convertedPlaces) unitsInOne *
      unitsInOne / Nat.pow 10 convertedPlaces := by
    rw [Nat.le_div_iff_mul_le hten, Nat.mul_right_comm]
    exact Nat.mul_le_mul_right _ hsteps
  rw [roundedUnits]
  generalize nearestQuotient _ _ * unitsInOne = n at *
  generalize Nat.pow 10 convertedPlaces = d at *
  rw [hbinade] at h hlarge
  -- both the double and the decimal lie where a spacing is more than twice the error of the decimal
  have hspacing := Nat.mul_le_mul_left d (two_pow_le_spacing h)
  have hspacing' := Nat.mul_le_mul_left d (two_pow_le_spacing hlarge)
  generalize d * 2 ^ (1080 - 52) = width at *
  have hdvd : spacing (n / d) ∣ u := by
    refine spacing_dvd_of_lt hten hu ?_
    rw [Nat.add_mul, Nat.mul_comm (spacing u)]
    omega
  exact roundQuotient_eq_of_dvd hdvd (by omega) (by omega)

/-- A double below 64 is so close to the decimal it is reached from that it is rounded to that. -/
lemma nearestQuotient_roundQuotient {steps : Nat}
    (h : roundQuotient (steps * unitsInOne) (Nat.pow 10 convertedPlaces) < 64 * unitsInOne) :
    nearestQuotient (roundQuotient (steps * unitsInOne) (Nat.pow 10 convertedPlaces) *
      Nat.pow 10 convertedPlaces) unitsInOne = steps := by
  have hten := ten_pow_pos convertedPlaces
  obtain ⟨hstep, -, hbinade⟩ := step_between_spacings
  rw [hbinade] at h
  have hsmall : steps * unitsInOne / Nat.pow 10 convertedPlaces < 2 ^ 1080 := by
    by_contra hge
    rw [not_lt, Nat.le_div_iff_mul_le hten] at hge
    exact absurd (two_pow_le_roundQuotient hten hge) h.not_ge
  have hspacing := Nat.mul_le_mul_left (Nat.pow 10 convertedPlaces) (spacing_le_two_pow hsmall)
  obtain ⟨hlow, hhigh⟩ := roundQuotient_error (steps * unitsInOne) hten
  generalize Nat.pow 10 convertedPlaces * 2 ^ (1080 - 53) = width at *
  exact nearestQuotient_eq_of_lt (by omega) (by omega)

lemma roundedUnits_roundedUnits (u : Nat) :
    roundedUnits convertedPlaces (roundedUnits convertedPlaces u) =
      roundedUnits convertedPlaces u := by
  -- from 64 on the double is reached again, and below 64 the decimal it was reached from
  rcases le_or_gt (64 * unitsInOne) (roundedUnits convertedPlaces u) with hlarge | hsmall
  · exact roundedUnits_of_le (spacing_dvd_roundQuotient _ _) hlarge
  · unfold roundedUnits at hsmall ⊢
    rw [nearestQuotient_roundQuotient hsmall]

lemma roundedUnits_zero (places : Nat) : roundedUnits places 0 = 0 := by
  simp [roundedUnits, roundQuotient, nearestQuotient]

end Units

namespace Magnitude

variable {m : Magnitude}

lemma roundedUnits_lt_limit (m : Magnitude) : roundedUnits convertedPlaces m.units < limit := by
  rcases le_total (64 * unitsInOne) m.units with hlarge | hsmall
  · rw [roundedUnits_of_le m.aligned hlarge]
    exact m.units_lt
  · have haligned : spacing (64 * unitsInOne) ∣ 64 * unitsInOne := by
      rw [step_between_spacings.2.2]
      exact spacing_two_pow_dvd 1080
    calc
      roundedUnits convertedPlaces m.units ≤ roundedUnits convertedPlaces (64 * unitsInOne) :=
        roundedUnits_mono hsmall
      _ = 64 * unitsInOne := roundedUnits_of_le haligned le_rfl
      _ ≤ 2 ^ 6 * unitsInOne := Nat.mul_le_mul_right _ (by decide)
      _ < limit := two_pow_mul_unitsInOne_lt (by decide)

/-- The magnitude rounded to the places of converted values. -/
def rounded (m : Magnitude) : Magnitude where
  units := roundedUnits convertedPlaces m.units
  units_lt := m.roundedUnits_lt_limit
  aligned := spacing_dvd_roundQuotient _ _

lemma units_rounded (m : Magnitude) : m.rounded.units = roundedUnits convertedPlaces m.units := rfl

lemma rounded_rounded (m : Magnitude) : m.rounded.rounded = m.rounded :=
  Magnitude.ext (roundedUnits_roundedUnits m.units)

lemma rounded_of_le (h : 64 * unitsInOne ≤ m.units) : m.rounded = m :=
  Magnitude.ext (roundedUnits_of_le m.aligned h)

lemma value_nonneg (m : Magnitude) : 0 ≤ m.value := by
  rw [value, Rat.mkRat_eq_div, Int.cast_natCast]
  positivity

lemma natCast_le_value_iff {n : Nat} : (n : Rat) ≤ m.value ↔ n * unitsInOne ≤ m.units := by
  rw [value, Rat.mkRat_eq_div, Int.cast_natCast, le_div_iff₀ (Nat.cast_pos.mpr unitsInOne_pos)]
  exact_mod_cast Iff.rfl

lemma rounded_le {a b : Magnitude} (h : a.units ≤ b.units) : a.rounded.units ≤ b.rounded.units :=
  roundedUnits_mono h

lemma rounded_eq_zero (h : m.units = 0) : m.rounded.units = 0 := by
  rw [units_rounded, h, roundedUnits_zero]

lemma signed_false (m : Magnitude) : m.signed false = m.units := rfl

lemma signed_true (m : Magnitude) : m.signed true = -(m.units : Int) := rfl

/-- Rounding preserves the order of magnitudes with signs. -/
lemma signed_rounded_le {s t : Bool} {a b : Magnitude} (h : a.signed s ≤ b.signed t) :
    a.rounded.signed s ≤ b.rounded.signed t := by
  cases s with
  | false =>
    cases t with
    | false =>
      rw [signed_false, signed_false, Int.ofNat_le] at h ⊢
      exact rounded_le h
    | true =>
      rw [signed_false, signed_true] at h ⊢
      have ha : a.units = 0 := by omega
      have hb : b.units = 0 := by omega
      rw [rounded_eq_zero ha, rounded_eq_zero hb]
      exact le_rfl
  | true =>
    cases t with
    | false =>
      rw [signed_true, signed_false]
      omega
    | true =>
      rw [signed_true, signed_true, neg_le_neg_iff, Int.ofNat_le] at h ⊢
      exact rounded_le h

end Magnitude

lemma roundPlaces_finite (s : Bool) (m : Magnitude) :
    (finite s m).roundPlaces convertedPlaces = finite s m.rounded := by
  rw [roundPlaces]
  exact ofQuotient_of_some s (Magnitude.ofQuotient?_eq_some_of_eq m.units_rounded.symm)

/-! ### Exact values -/

lemma natAbs_num_div (n : Nat) {d : Nat} (hd : 0 < d) :
    ((n : Rat) / d).num.natAbs * d = n * ((n : Rat) / d).den := by
  have hnum : 0 ≤ ((n : Rat) / d).num := Rat.num_nonneg.mpr (by positivity)
  have hd' : (d : Rat) ≠ 0 := Nat.cast_ne_zero.mpr hd.ne'
  have hden : (((n : Rat) / d).den : Rat) ≠ 0 := Nat.cast_ne_zero.mpr (Rat.den_nz _)
  have hcross := (div_eq_div_iff hden hd').mp (Rat.num_div_den ((n : Rat) / d))
  zify
  rw [abs_of_nonneg hnum]
  exact_mod_cast hcross

lemma roundRat_div (places n : Nat) {d : Nat} (hd : 0 < d) :
    Scalar.roundRat places (n / d) =
      (nearestQuotient (n * 10 ^ places) d : Rat) / (10 ^ places : Nat) := by
  rw [Scalar.roundRat_of_nonneg (by positivity), Nat.cast_pow, Nat.cast_ofNat]
  congr 2
  refine nearestQuotient_congr (Rat.den_pos _) hd ?_
  rw [Nat.mul_right_comm, natAbs_num_div n hd, Nat.mul_right_comm]

/-- The double with a sign that is nearest to a rational number, halves to even. -/
def ofRat (negative : Bool) (x : Rat) : Binary64 :=
  ofQuotient negative (x.num.natAbs * unitsInOne) x.den

/-- A double is rounded to the double nearest to its rounded exact value. -/
lemma roundPlaces_eq_ofRat (places : Nat) (s : Bool) (m : Magnitude) :
    (finite s m).roundPlaces places = ofRat s (Scalar.roundRat places m.value) := by
  have hten : 0 < 10 ^ places := ten_pow_pos places
  have hvalue : Scalar.roundRat places m.value =
      (nearestQuotient (m.units * 10 ^ places) unitsInOne : Rat) / (10 ^ places : Nat) := by
    rw [Magnitude.value, Rat.mkRat_eq_div, Int.cast_natCast, roundRat_div places _ unitsInOne_pos]
  rw [roundPlaces, ofRat, hvalue]
  refine ofQuotient_congr s (roundQuotient_congr hten (Rat.den_pos _) ?_)
  rw [Nat.pow_eq, Nat.mul_right_comm _ unitsInOne, ← natAbs_num_div _ hten, Nat.mul_right_comm]

/-! ### Doubles -/

variable {x y : Binary64}

lemma isFinite_finite (s : Bool) (m : Magnitude) : (finite s m).isFinite = true := rfl

lemma isFinite_roundPlaces (x : Binary64) :
    (x.roundPlaces convertedPlaces).isFinite = x.isFinite := by
  cases x with
  | finite s m => rw [roundPlaces_finite, isFinite_finite, isFinite_finite]
  | infinite | nan => rfl

lemma roundPlaces_roundPlaces (x : Binary64) :
    (x.roundPlaces convertedPlaces).roundPlaces convertedPlaces =
      x.roundPlaces convertedPlaces := by
  cases x with
  | finite s m => rw [roundPlaces_finite, roundPlaces_finite, Magnitude.rounded_rounded]
  | infinite | nan => rfl

lemma roundPlaces_neg (x : Binary64) :
    x.neg.roundPlaces convertedPlaces = (x.roundPlaces convertedPlaces).neg := by
  cases x with
  | finite s m => rw [neg, roundPlaces_finite, roundPlaces_finite, neg]
  | infinite | nan => rfl

lemma roundPlaces_infinite (places : Nat) (s : Bool) :
    (infinite s).roundPlaces places = infinite s := rfl

lemma finite_le_finite {s t : Bool} {a b : Magnitude} :
    (finite s a).le (finite t b) ↔ a.signed s ≤ b.signed t := decide_eq_true_iff

lemma finite_le_infinite (s t : Bool) (m : Magnitude) : (finite s m).le (infinite t) = !t := rfl

lemma infinite_le_finite (s t : Bool) (m : Magnitude) : (infinite s).le (finite t m) = s := rfl

lemma roundPlaces_le_roundPlaces (h : x.le y) :
    (x.roundPlaces convertedPlaces).le (y.roundPlaces convertedPlaces) := by
  cases x with
  | finite s a =>
    rw [roundPlaces_finite]
    cases y with
    | finite t b =>
      rw [roundPlaces_finite, finite_le_finite]
      exact Magnitude.signed_rounded_le (finite_le_finite.mp h)
    | infinite t =>
      rw [finite_le_infinite] at h
      rw [roundPlaces_infinite, finite_le_infinite]
      exact h
    | nan => cases h
  | infinite s =>
    cases y with
    | finite t b =>
      rw [infinite_le_finite] at h
      rw [roundPlaces_infinite, roundPlaces_finite, infinite_le_finite]
      exact h
    | infinite t => exact h
    | nan => cases h
  | nan => cases h

lemma roundPlaces_of_le {v : Rat} (hv : v ∈ x.value?) (h : 64 ≤ |v|) :
    x.roundPlaces convertedPlaces = x := by
  cases x with
  | finite s m =>
    have habs : |v| = m.value := by
      obtain rfl : (if s then -m.value else m.value) = v := Option.some.inj hv
      split
      · rw [abs_neg, abs_of_nonneg m.value_nonneg]
      · exact abs_of_nonneg m.value_nonneg
    have hunits : 64 * unitsInOne ≤ m.units := by
      rw [← Magnitude.natCast_le_value_iff, ← habs]
      exact_mod_cast h
    rw [roundPlaces_finite, Magnitude.rounded_of_le hunits]
  | infinite | nan => cases hv

end Binary64

lemma Number.roundPlaces_roundPlaces (x : Number) :
    (x.roundPlaces convertedPlaces).roundPlaces convertedPlaces =
      x.roundPlaces convertedPlaces := by
  cases x with
  | int n => rfl
  | real x => exact congrArg real x.roundPlaces_roundPlaces

/-- What is converted to another unit was rounded. -/
lemma exists_roundPlaces_of_convert {α : Type} [Scalar α] {t : UnitTable α} {q r : Quantity α}
    {u : MeasureUnit} (h : q.convert t u = .ok r) (hu : u ≠ q.unit) :
    ∃ value, r.value = Scalar.roundPlaces convertedPlaces value := by
  unfold Quantity.convert at h
  obtain ⟨source, -, h⟩ := bind_eq_ok_iff.mp h
  obtain ⟨goal, -, h⟩ := bind_eq_ok_iff.mp h
  split at h
  next => cases h
  next =>
    obtain ⟨base, -, h⟩ := bind_eq_ok_iff.mp h
    obtain ⟨value, -, h⟩ := bind_eq_ok_iff.mp h
    obtain rfl := Except.ok.inj h
    exact ⟨value, rfl⟩

open Binary64

/--
Rounding a double to the places of converted values gives the double nearest to the rounded exact
value. It is settled after one time, so that values converted to another unit are settled too. It
does not depend on the sign, preserves order, and keeps every double from 64 on.
-/
theorem roundPlaces_convertedPlaces (x y : Binary64) :
    (∀ s m, x = .finite s m →
      x.roundPlaces convertedPlaces = ofRat s (Scalar.roundRat convertedPlaces m.value)) ∧
    (x.roundPlaces convertedPlaces).isFinite = x.isFinite ∧
    (x.roundPlaces convertedPlaces).roundPlaces convertedPlaces = x.roundPlaces convertedPlaces ∧
    x.neg.roundPlaces convertedPlaces = (x.roundPlaces convertedPlaces).neg ∧
    (x.le y → (x.roundPlaces convertedPlaces).le (y.roundPlaces convertedPlaces)) ∧
    (∀ v ∈ x.value?, 64 ≤ |v| → x.roundPlaces convertedPlaces = x) ∧
    ∀ (t : UnitTable Number) (q r : Quantity Number) (u : MeasureUnit), q.convert t u = .ok r →
      u ≠ q.unit → r.value.roundPlaces convertedPlaces = r.value := by
  refine ⟨?_, isFinite_roundPlaces x, roundPlaces_roundPlaces x, roundPlaces_neg x,
    roundPlaces_le_roundPlaces, fun v hv h => roundPlaces_of_le hv h, ?_⟩
  · rintro s m rfl
    exact roundPlaces_eq_ofRat convertedPlaces s m
  · intro t q r u h hu
    obtain ⟨value, hvalue⟩ := exists_roundPlaces_of_convert h hu
    rw [hvalue]
    exact value.roundPlaces_roundPlaces

/-- A third is not kept but settled, a hundred is kept, and so is a converted knot. -/
theorem roundPlaces_convertedPlaces_third :
    ((ofInt 1).div (ofInt 3)).roundPlaces convertedPlaces ≠ (ofInt 1).div (ofInt 3) ∧
    (((ofInt 1).div (ofInt 3)).roundPlaces convertedPlaces).roundPlaces convertedPlaces =
      ((ofInt 1).div (ofInt 3)).roundPlaces convertedPlaces ∧
    (((ofInt 1).div (ofInt 3)).roundPlaces convertedPlaces).le
      ((ofInt 100).roundPlaces convertedPlaces) ∧
    (ofInt 100).roundPlaces convertedPlaces = ofInt 100 ∧
    ∃ r, ((Quantity.mk (ofInt 1) .knot).map Number.real).convert Standard.units .milePerHour =
        .ok r ∧ r.value.roundPlaces convertedPlaces = r.value := by
  obtain ⟨-, -, hsettled, -, hle, -, -⟩ :=
    roundPlaces_convertedPlaces ((ofInt 1).div (ofInt 3)) (ofInt 100)
  obtain ⟨-, -, -, -, -, hkept, hconverted⟩ :=
    roundPlaces_convertedPlaces (ofInt 100) (ofInt 100)
  have hfacts : ((ofInt 1).div (ofInt 3)).roundPlaces convertedPlaces ≠ (ofInt 1).div (ofInt 3) ∧
      ((ofInt 1).div (ofInt 3)).le (ofInt 100) ∧ (ofInt 100).value? = some 100 := by
    decide +kernel
  have hknot := convert_real (q := ⟨ofInt 1, .knot⟩) (u := .milePerHour) rfl
  exact ⟨hfacts.1, hsettled, hle hfacts.2.1, hkept 100 hfacts.2.2 (by norm_num), _, hknot,
    hconverted _ _ _ _ hknot (by decide)⟩

end FlightUnits
