import FlightUnits.Proofs.DecimalRounding
import FlightUnits.Proofs.ExactUnits
import Mathlib.Algebra.BigOperators.Group.List.Basic

/-!
# Sums and differences in exact arithmetic

Over the rationals a sum is the left value and the right one converted to the left unit, so adding
many quantities to one is a sum of converted values, in any order. Rounding is odd, and so is every
conversion between units that have factors: a difference is then the sum with the opposite quantity.
-/

namespace FlightUnits

open Standard

variable {p q : Quantity Rat} {u v : MeasureUnit}

/-! ### Converted values -/

/-- The value of a quantity when it is converted to a unit of its dimension. -/
def Quantity.valueAt (q : Quantity Rat) (u : MeasureUnit) : Rat :=
  if u = q.unit then q.value
  else Scalar.roundRat convertedPlaces (fromBase u (toBase q.unit q.value))

lemma convert_valueAt (h : dimension q.unit = dimension u) :
    q.convert units u = .ok ⟨q.valueAt u, u⟩ := by
  by_cases hu : u = q.unit
  · subst hu
    rw [convert_self, Quantity.valueAt, if_pos rfl]
  · rw [convert_exact h hu, Quantity.valueAt, if_neg hu]

lemma valueAt_unit (q : Quantity Rat) : q.valueAt q.unit = q.value := if_pos rfl

lemma valueAt_of_ne (h : u ≠ q.unit) : q.valueAt u =
    Scalar.roundRat convertedPlaces (fromBase u (toBase q.unit q.value)) := if_neg h

/-- The quantity of the opposite sign. -/
def Quantity.opposite (q : Quantity Rat) : Quantity Rat := ⟨-q.value, q.unit⟩

lemma valueAt_opposite_of_ne (h : u ≠ q.unit) : q.opposite.valueAt u =
    Scalar.roundRat convertedPlaces (fromBase u (toBase q.unit (-q.value))) := if_neg h

lemma fromBase_toBase_neg (hu : u ≠ .fahrenheit) (hv : v ≠ .fahrenheit) (x : Rat) :
    fromBase u (toBase v (-x)) = -fromBase u (toBase v x) := by
  rw [fromBase, fromBase, offset_of_ne hu, toBase_of_ne hv, toBase_of_ne hv]
  ring

lemma valueAt_opposite (hu : u ≠ .fahrenheit) (hq : q.unit ≠ .fahrenheit) :
    q.opposite.valueAt u = -q.valueAt u := by
  by_cases h : u = q.unit
  · subst h
    rw [valueAt_unit]
    exact valueAt_unit q.opposite
  · rw [valueAt_opposite_of_ne h, valueAt_of_ne h, fromBase_toBase_neg hu hq, Scalar.roundRat_neg]

namespace Operand

lemma negate_quantity (q : Quantity Rat) : (quantity q).negate = quantity q.opposite := rfl

section Combinations

variable {symbol : Symbol} {op : Rat → Rat → Except ArithmeticFault Rat}

lemma combine_of_ne (h : dimension q.unit ≠ dimension p.unit) :
    combine tables symbol op (quantity p) (quantity q) = .error (mismatch q.unit p.unit) := by
  have hunit : p.unit ≠ q.unit := by
    intro hu
    exact h (by rw [hu])
  rw [combine_quantities, if_neg hunit, units_tables, convert_of_ne h, error_bind]

lemma combine_of_eq (h : dimension q.unit = dimension p.unit) :
    combine tables symbol op (quantity p) (quantity q) = (do
      let z ← op p.value (q.valueAt p.unit)
      return quantity ⟨z, p.unit⟩) := by
  rw [combine_quantities]
  split
  next hu => rw [hu, valueAt_unit]
  next => rw [units_tables, convert_valueAt h, ok_bind]

end Combinations

lemma add_exact (h : dimension q.unit = dimension p.unit) :
    add tables (quantity p) (quantity q) =
      .ok (quantity ⟨p.value + q.valueAt p.unit, p.unit⟩) := combine_of_eq h

lemma subtract_exact (h : dimension q.unit = dimension p.unit) :
    subtract tables (quantity p) (quantity q) =
      .ok (quantity ⟨p.value - q.valueAt p.unit, p.unit⟩) := combine_of_eq h

/-! ### Differences -/

/-- Two temperatures in different units. -/
def AreMixedTemperatures (a b : Operand Rat) : Prop :=
  ∃ p q, a = quantity p ∧ b = quantity q ∧ dimension p.unit = .temperature ∧
    dimension q.unit = .temperature ∧ p.unit ≠ q.unit

/-- Two outcomes that are equal operands or faults of one kind. -/
def SameOutcome (s t : Except (Fault Rat) (Operand Rat)) : Prop :=
  s.mapError Fault.kind = t.mapError Fault.kind

lemma eq_of_dimension_temperature (h : dimension u = .temperature) :
    u = .celsius ∨ u = .fahrenheit := by
  revert h
  cases u <;> decide

/-- The values of two opposite temperatures in another unit do not cancel. -/
lemma valueAt_opposite_ne (hu : dimension u = .temperature) (hq : dimension q.unit = .temperature)
    (hne : u ≠ q.unit) : q.opposite.valueAt u ≠ -q.valueAt u := by
  have hzero : 1 ≤ |2 * fromBase u (toBase q.unit 0)| := by
    rcases eq_of_dimension_temperature hu with rfl | rfl <;>
    rcases eq_of_dimension_temperature hq with hq | hq <;> rw [hq] at hne ⊢
    · exact absurd rfl hne
    · decide +kernel
    · decide +kernel
    · exact absurd rfl hne
  have hsum : fromBase u (toBase q.unit q.value) + fromBase u (toBase q.unit (-q.value)) =
      2 * fromBase u (toBase q.unit 0) := by
    simp only [fromBase, toBase]
    ring
  have hround := Scalar.abs_roundRat_sub_le convertedPlaces (fromBase u (toBase q.unit q.value))
  have hround' := Scalar.abs_roundRat_sub_le convertedPlaces
    (fromBase u (toBase q.unit (-q.value)))
  have hstep : (1 : Rat) / 2 / 10 ^ convertedPlaces < 1 / 2 := by decide +kernel
  intro h
  rw [valueAt_opposite_of_ne hne, valueAt_of_ne hne] at h
  rw [h] at hround'
  rw [← hsum] at hzero
  rw [abs_le] at hround hround'
  rcases le_abs.mp hzero with hzero | hzero <;> linarith

lemma sameOutcome_ok {a b : Operand Rat} : SameOutcome (.ok a) (.ok b) ↔ a = b :=
  Except.ok.injEq _ _ ▸ Iff.rfl

/-- Quantities of one dimension: their difference is the sum with the opposite one, unless they are
temperatures in different units. -/
lemma sameOutcome_quantities (h : dimension q.unit = dimension p.unit) :
    SameOutcome (subtract tables (quantity p) (quantity q))
        (add tables (quantity p) (quantity q.opposite)) ↔
      ¬ AreMixedTemperatures (quantity p) (quantity q) := by
  rw [subtract_exact h, add_exact (q := q.opposite) h, sameOutcome_ok]
  have hvalues : quantity ⟨p.value - q.valueAt p.unit, p.unit⟩ =
      quantity ⟨p.value + q.opposite.valueAt p.unit, p.unit⟩ ↔
        q.opposite.valueAt p.unit = -q.valueAt p.unit := by
    rw [sub_eq_add_neg, quantity.injEq, Quantity.mk.injEq, and_iff_left rfl, add_right_inj, eq_comm]
  rw [hvalues]
  constructor
  · rintro hvalue ⟨_, _, hp, hq, hdp, hdq, hne⟩
    obtain rfl := quantity.inj hp
    obtain rfl := quantity.inj hq
    exact valueAt_opposite_ne hdp hdq hne hvalue
  · intro hmixed
    by_cases hu : p.unit = q.unit
    · rw [hu, valueAt_unit]
      exact valueAt_unit q.opposite
    · have htemperature : dimension p.unit ≠ .temperature := by
        intro hd
        exact hmixed ⟨p, q, rfl, rfl, hd, h.trans hd, hu⟩
      exact valueAt_opposite (ne_fahrenheit_of_dimension htemperature)
        (ne_fahrenheit_of_dimension (h ▸ htemperature))

lemma sameOutcome_iff (a b : Operand Rat) :
    SameOutcome (subtract tables a b) (add tables a b.negate) ↔ ¬ AreMixedTemperatures a b := by
  cases a with
  | number x =>
    have hmixed : ¬ AreMixedTemperatures (number x) b := by
      rintro ⟨p, q, hp, -⟩
      cases hp
    refine iff_of_true ?_ hmixed
    cases b with
    | number y => exact sameOutcome_ok.mpr (congrArg number (sub_eq_add_neg x y))
    | quantity q => rfl
  | quantity p =>
    cases b with
    | number y =>
      have hmixed : ¬ AreMixedTemperatures (quantity p) (number y) := by
        rintro ⟨p, q, -, hq, -⟩
        cases hq
      exact iff_of_true rfl hmixed
    | quantity q =>
      by_cases h : dimension q.unit = dimension p.unit
      · exact sameOutcome_quantities h
      · refine iff_of_true ?_ ?_
        · rw [negate_quantity, subtract, add, combine_of_ne h, combine_of_ne (q := q.opposite) h]
          rfl
        · rintro ⟨_, _, hp, hq, hdp, hdq, -⟩
          obtain rfl := quantity.inj hp
          obtain rfl := quantity.inj hq
          exact h (hdq.trans hdp.symm)

/-- Subtraction is the addition of the negation, but for temperatures in different units, and both
work on the converted value. -/
theorem subtract_eq_add_negate_iff :
    (∀ a b : Operand Rat, SameOutcome (subtract tables a b) (add tables a b.negate) ↔
      ¬ AreMixedTemperatures a b) ∧
    (∀ p q : Quantity Rat, dimension q.unit = dimension p.unit →
      ∃ r, q.convert units p.unit = .ok r ∧
        add tables (quantity p) (quantity q) = .ok (quantity ⟨p.value + r.value, p.unit⟩) ∧
        subtract tables (quantity p) (quantity q) = .ok (quantity ⟨p.value - r.value, p.unit⟩)) ∧
    ∀ p : Quantity Rat, subtract tables (quantity p) (quantity p) = .ok (quantity ⟨0, p.unit⟩) := by
  refine ⟨sameOutcome_iff, fun p q h => ?_, fun p => ?_⟩
  · exact ⟨_, convert_valueAt h, add_exact h, subtract_exact h⟩
  · rw [subtract_exact rfl, valueAt_unit, sub_self]

/-- A foot less six inches, and a temperature less one of another unit. -/
theorem subtract_eq_add_negate_iff_mixed :
    (subtract tables (quantity ⟨1, .foot⟩) (quantity ⟨6, .inch⟩) =
      add tables (quantity ⟨1, .foot⟩) (quantity ⟨(-6 : Rat), .inch⟩)) ∧
    ¬ SameOutcome (subtract tables (quantity ⟨0, .celsius⟩) (quantity ⟨32, .fahrenheit⟩))
      (add tables (quantity ⟨0, .celsius⟩) (quantity ⟨-32, .fahrenheit⟩)) ∧
    ∃ r : Quantity Rat, Quantity.convert units ⟨32, .fahrenheit⟩ .celsius = .ok r ∧
      subtract tables (quantity ⟨5, .celsius⟩) (quantity ⟨32, .fahrenheit⟩) =
        .ok (quantity ⟨5 - r.value, .celsius⟩) := by
  obtain ⟨hiff, hvalues, -⟩ := subtract_eq_add_negate_iff
  refine ⟨?_, ?_, ?_⟩
  · have hsame := (hiff (quantity ⟨1, .foot⟩) (quantity ⟨6, .inch⟩)).mpr ?_
    · obtain ⟨r, -, hadd, -⟩ := hvalues ⟨1, .foot⟩ ⟨-6, .inch⟩ rfl
      obtain ⟨s, -, -, hsubtract⟩ := hvalues ⟨1, .foot⟩ ⟨6, .inch⟩ rfl
      rw [negate_quantity, Quantity.opposite] at hsame
      rw [hadd, hsubtract, sameOutcome_ok] at hsame
      rw [hadd, hsubtract, hsame]
    · rintro ⟨p, q, hp, -, hd, -⟩
      obtain rfl := quantity.inj hp
      exact absurd hd (by decide)
  · intro hsame
    exact (hiff (quantity ⟨0, .celsius⟩) (quantity ⟨32, .fahrenheit⟩)).mp hsame
      ⟨⟨0, .celsius⟩, ⟨32, .fahrenheit⟩, rfl, rfl, rfl, rfl, by decide⟩
  · obtain ⟨r, hr, -, h⟩ := hvalues ⟨5, .celsius⟩ ⟨32, .fahrenheit⟩ rfl
    exact ⟨r, hr, h⟩

/-! ### Sums of many quantities -/

/-- An operand and further ones added up from the left. -/
def addAll {α : Type} [Scalar α] (t : Tables α) (a : Operand α) (bs : List (Operand α)) :
    Except (Fault α) (Operand α) := bs.foldlM (add t) a

lemma addAll_cons {α : Type} [Scalar α] (t : Tables α) (a b : Operand α) (bs : List (Operand α)) :
    addAll t a (b :: bs) = (do let c ← add t a b; addAll t c bs) := rfl

lemma addAll_exact {qs : List (Quantity Rat)} (h : ∀ p ∈ qs, dimension p.unit = dimension q.unit) :
    addAll tables (quantity q) (qs.map quantity) =
      .ok (quantity ⟨q.value + (qs.map fun p => p.valueAt q.unit).sum, q.unit⟩) := by
  induction qs generalizing q with
  | nil =>
    rw [List.map_nil, List.map_nil, List.sum_nil, add_zero]
    rfl
  | cons p qs ih =>
    obtain ⟨hp, hqs⟩ := List.forall_mem_cons.mp h
    have hrest := @ih ⟨q.value + p.valueAt q.unit, q.unit⟩ hqs
    rw [List.map_cons, addAll_cons, add_exact hp, ok_bind, hrest, List.map_cons, List.sum_cons,
      add_assoc]

/-- A unit that has a factor to its base unit. -/
def HasFactor (u : MeasureUnit) : Prop := (entry u : Descriptor Rat).conversion.factor?.isSome

instance (u : MeasureUnit) : Decidable (HasFactor u) := inferInstanceAs (Decidable (_ = true))

lemma HasFactor.ne_fahrenheit (h : HasFactor u) : u ≠ .fahrenheit := by
  rintro rfl
  exact Bool.false_ne_true h

/-- A converted value is off by half a step of the decimal grid, and exact in the unit itself. -/
lemma abs_slope_mul_valueAt_sub_le (hu : u ≠ .fahrenheit) (hp : p.unit ≠ .fahrenheit) :
    |slope u * p.valueAt u - p.inBase.value| ≤
      if p.unit = u then 0 else 1 / 2 / 10 ^ 14 * slope u := by
  rw [Quantity.inBase]
  split
  next h =>
    rw [← h, valueAt_unit, toBase_of_ne hp, sub_self, abs_zero]
  next h =>
    have hback : slope u * fromBase u (toBase p.unit p.value) = toBase p.unit p.value := by
      rw [← toBase_of_ne hu, toBase_fromBase]
    have hround := Scalar.abs_roundRat_sub_le convertedPlaces (fromBase u (toBase p.unit p.value))
    rw [valueAt_of_ne (Ne.symm h), mul_comm (1 / 2 / 10 ^ 14)]
    calc
      |slope u * Scalar.roundRat convertedPlaces (fromBase u (toBase p.unit p.value)) -
          toBase p.unit p.value| =
          slope u * |Scalar.roundRat convertedPlaces (fromBase u (toBase p.unit p.value)) -
            fromBase u (toBase p.unit p.value)| := by
        rw [← abs_of_pos (slope_pos u), ← abs_mul, abs_of_pos (slope_pos u), mul_sub, hback]
      _ ≤ slope u * (1 / 2 / 10 ^ 14) := mul_le_mul_of_nonneg_left hround (slope_pos u).le

/-- The errors of the summands that are converted add up. -/
lemma abs_sum_valueAt_sub_le (hu : u ≠ .fahrenheit) {qs : List (Quantity Rat)}
    (hqs : ∀ p ∈ qs, p.unit ≠ .fahrenheit) :
    |slope u * (qs.map fun p => p.valueAt u).sum - (qs.map fun p => p.inBase.value).sum| ≤
      (qs.countP fun p => p.unit ≠ u : Nat) * (1 / 2 / 10 ^ 14 * slope u) := by
  induction qs with
  | nil =>
    rw [List.map_nil, List.map_nil, List.sum_nil, List.countP_nil, mul_zero, sub_zero, abs_zero,
      Nat.cast_zero, zero_mul]
  | cons p qs ih =>
    obtain ⟨hp, hqs⟩ := List.forall_mem_cons.mp hqs
    have hhead := abs_slope_mul_valueAt_sub_le hu hp
    have htail := ih hqs
    rw [List.map_cons, List.sum_cons, List.map_cons, List.sum_cons, List.countP_cons, mul_add,
      add_sub_add_comm]
    refine (abs_add_le _ _).trans ?_
    by_cases h : p.unit = u
    · rw [if_pos h] at hhead
      rw [if_neg (by simpa using h), add_zero]
      linarith
    · rw [if_neg h] at hhead
      rw [if_pos (by simpa using h), Nat.cast_add, Nat.cast_one, add_mul, one_mul]
      linarith

/-- The sum of quantities that have factors, in the base unit, against the exact sum. -/
lemma abs_inBase_addAll_sub_le (hq : q.unit ≠ .fahrenheit) {qs : List (Quantity Rat)}
    (hqs : ∀ p ∈ qs, p.unit ≠ .fahrenheit) :
    |(Quantity.mk (q.value + (qs.map fun p => p.valueAt q.unit).sum) q.unit).inBase.value -
        ((q :: qs).map fun p => p.inBase.value).sum| ≤
      (qs.countP fun p => p.unit ≠ q.unit : Nat) * (1 / 2 / 10 ^ 14 * slope q.unit) := by
  have hbase : (Quantity.mk (q.value + (qs.map fun p => p.valueAt q.unit).sum) q.unit).inBase.value
      = q.inBase.value + slope q.unit * (qs.map fun p => p.valueAt q.unit).sum := by
    rw [Quantity.inBase, Quantity.inBase, toBase_of_ne hq, toBase_of_ne hq, mul_add]
  rw [hbase, List.map_cons, List.sum_cons, add_sub_add_left_eq_sub]
  exact abs_sum_valueAt_sub_le hq hqs

/-- Quantities of one dimension add up in the first unit, whatever the order of the others. Where
the units have factors the result is off by half a step of the grid for each value converted. -/
theorem addAll_standard (q : Quantity Rat) (qs : List (Quantity Rat))
    (hdim : ∀ p ∈ qs, dimension p.unit = dimension q.unit) :
    ∃ r : Quantity Rat, addAll tables (quantity q) (qs.map quantity) = .ok (quantity r) ∧
      r.unit = q.unit ∧
      (∀ ps : List (Quantity Rat), ps.Perm qs →
        addAll tables (quantity q) (ps.map quantity) = .ok (quantity r)) ∧
      ((∀ p ∈ q :: qs, HasFactor p.unit) →
        |r.inBase.value - ((q :: qs).map fun p => p.inBase.value).sum| ≤
          (qs.countP fun p => p.unit ≠ q.unit : Nat) * (1 / 2 / 10 ^ 14 * slope q.unit) ∧
        ∀ p ps, (p :: ps).Perm (q :: qs) → ∃ s : Quantity Rat,
          addAll tables (quantity p) (ps.map quantity) = .ok (quantity s) ∧
          |s.inBase.value - r.inBase.value| ≤
            qs.length * (1 / 2 / 10 ^ 14) * (slope p.unit + slope q.unit)) := by
  refine ⟨_, addAll_exact hdim, rfl, fun ps hperm => ?_, fun hfactor => ?_⟩
  · rw [addAll_exact fun p hp => hdim p (hperm.subset hp), (hperm.map _).sum_eq]
  · have hne : ∀ p ∈ q :: qs, p.unit ≠ .fahrenheit := fun p hp => (hfactor p hp).ne_fahrenheit
    obtain ⟨hq, hqs⟩ := List.forall_mem_cons.mp hne
    have hfirst := abs_inBase_addAll_sub_le hq hqs
    refine ⟨hfirst, fun p ps hperm => ?_⟩
    have hdim' : ∀ p ∈ q :: qs, dimension p.unit = dimension q.unit :=
      List.forall_mem_cons.mpr ⟨rfl, hdim⟩
    have hdims : ∀ p' ∈ p :: ps, dimension p'.unit = dimension q.unit :=
      fun p' hp' => hdim' p' (hperm.subset hp')
    obtain ⟨hp, hps⟩ := List.forall_mem_cons.mp hdims
    obtain ⟨hp', hps'⟩ := List.forall_mem_cons.mp fun p' hp' => hne p' (hperm.subset hp')
    refine ⟨_, addAll_exact fun p' hp' => (hps p' hp').trans hp.symm, ?_⟩
    have hsecond := abs_inBase_addAll_sub_le hp' hps'
    have hlength : ps.length = qs.length := Nat.succ.inj hperm.length_eq
    have hcount : ((qs.countP fun p => p.unit ≠ q.unit : Nat) : Rat) ≤ qs.length :=
      Nat.cast_le.mpr List.countP_le_length
    have hcount' : ((ps.countP fun p' => p'.unit ≠ p.unit : Nat) : Rat) ≤ qs.length :=
      hlength ▸ Nat.cast_le.mpr List.countP_le_length
    rw [(hperm.map _).sum_eq] at hsecond
    have hstep : (0 : Rat) ≤ 1 / 2 / 10 ^ 14 := by positivity
    have hq' := mul_le_mul_of_nonneg_right hcount (mul_nonneg hstep (slope_pos q.unit).le)
    have hp'' := mul_le_mul_of_nonneg_right hcount' (mul_nonneg hstep (slope_pos p.unit).le)
    calc
      _ ≤ _ + _ := abs_sub_le _ ((q :: qs).map fun p => p.inBase.value).sum _
      _ ≤ qs.length * (1 / 2 / 10 ^ 14 * slope p.unit) +
          qs.length * (1 / 2 / 10 ^ 14 * slope q.unit) := by
        rw [abs_sub_comm _ (Quantity.inBase _).value]
        exact add_le_add (hsecond.trans hp'') (hfirst.trans hq')
      _ = _ := by ring

/-- A foot, two inches and three metres, added up in three orders. -/
theorem addAll_standard_lengths :
    ∃ r s : Quantity Rat,
      addAll tables (quantity ⟨1, .foot⟩) [quantity ⟨2, .inch⟩, quantity ⟨3, .metre⟩] =
        .ok (quantity r) ∧
      addAll tables (quantity ⟨1, .foot⟩) [quantity ⟨3, .metre⟩, quantity ⟨2, .inch⟩] =
        .ok (quantity r) ∧
      addAll tables (quantity ⟨3, .metre⟩) [quantity ⟨1, .foot⟩, quantity ⟨2, .inch⟩] =
        .ok (quantity s) ∧
      r.unit = .foot ∧ |r.inBase.value - 33556 / 10000| ≤ 2 * (1 / 2 / 10 ^ 14 * (3048 / 10000)) ∧
      |s.inBase.value - r.inBase.value| ≤ 2 * (1 / 2 / 10 ^ 14) * (1 + 3048 / 10000) := by
  obtain ⟨r, hr, hunit, hperm, herror⟩ :=
    addAll_standard ⟨1, .foot⟩ [⟨2, .inch⟩, ⟨3, .metre⟩] (by decide)
  obtain ⟨hexact, hother⟩ := herror (by decide +kernel)
  obtain ⟨s, hs, hdiff⟩ := hother ⟨3, .metre⟩ [⟨1, .foot⟩, ⟨2, .inch⟩] (by decide)
  have hvalues : Standard.slope .foot = 3048 / 10000 ∧ Standard.slope .metre = 1 ∧
      ([⟨1, .foot⟩, ⟨2, .inch⟩, ⟨3, .metre⟩].map fun p : Quantity Rat => p.inBase.value).sum =
        33556 / 10000 := by decide +kernel
  obtain ⟨hfoot, hmetre, hsum⟩ := hvalues
  rw [hsum, hfoot] at hexact
  rw [hfoot, hmetre] at hdiff
  exact ⟨r, s, hr, hperm [⟨3, .metre⟩, ⟨2, .inch⟩] (by decide), hs, hunit, hexact, hdiff⟩

end Operand

end FlightUnits
