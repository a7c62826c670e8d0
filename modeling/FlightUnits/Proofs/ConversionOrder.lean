import FlightUnits.Proofs.ConversionChain
import FlightUnits.Proofs.ExactSums
import FlightUnits.Proofs.MonotoneRounding

/-!
# Conversion preserves order

Of two values in a unit, the larger one is not converted to the smaller value in another unit of the
dimension: every conversion of the standard table is a line with a positive slope, and rounding
preserves order. Rounding keeps two values apart that differ by more than a step of the decimal
grid.
-/

namespace FlightUnits

open Standard

variable {u v : MeasureUnit} {x y : Rat}

/-- Each of the two values moves by half a step at most. -/
lemma Scalar.roundRat_lt_roundRat {places : Nat} (h : 1 / 10 ^ places < y - x) :
    roundRat places x < roundRat places y := by
  have hx := (abs_le.mp (abs_roundRat_sub_le places x)).2
  have hy := (abs_le.mp (abs_roundRat_sub_le places y)).1
  have hstep : (1 : Rat) / 10 ^ places = 1 / 2 / 10 ^ places + 1 / 2 / 10 ^ places := by ring
  linarith

lemma Standard.fromBase_toBase_mono (u v : MeasureUnit) (h : x ≤ y) :
    fromBase v (toBase u x) ≤ fromBase v (toBase u y) := by
  rw [← sub_nonneg, fromBase_sub_fromBase]
  exact mul_nonneg (div_pos (slope_pos u) (slope_pos v)).le (sub_nonneg.mpr h)

lemma valueAt_mono (h : x ≤ y) : Quantity.valueAt ⟨x, u⟩ v ≤ Quantity.valueAt ⟨y, u⟩ v := by
  by_cases hv : v = u
  · subst hv
    rw [valueAt_unit ⟨x, v⟩, valueAt_unit ⟨y, v⟩]
    exact h
  · rw [valueAt_of_ne hv, valueAt_of_ne hv]
    exact Scalar.roundRat_mono (fromBase_toBase_mono u v h)

lemma valueAt_lt_valueAt (h : 1 / 10 ^ 14 < fromBase v (toBase u y) - fromBase v (toBase u x)) :
    Quantity.valueAt ⟨x, u⟩ v < Quantity.valueAt ⟨y, u⟩ v := by
  by_cases hv : v = u
  · subst hv
    rw [fromBase_toBase, fromBase_toBase] at h
    rw [valueAt_unit ⟨x, v⟩, valueAt_unit ⟨y, v⟩, ← sub_pos]
    exact lt_trans (by norm_num) h
  · rw [valueAt_of_ne hv, valueAt_of_ne hv]
    exact Scalar.roundRat_lt_roundRat h

/--
Conversion preserves order. Two values in a unit are both converted to every unit of its dimension,
and the order of the results is that of the values. It is strict where the values without rounding
differ by more than a step of the decimal grid.
-/
theorem convert_mono (hd : dimension u = dimension v) (h : x ≤ y) :
    ∃ p q : Quantity Rat, ∃ a b : Rat,
      Quantity.convert units ⟨x, u⟩ v = .ok p ∧ Quantity.convert units ⟨y, u⟩ v = .ok q ∧
      p.unit = v ∧ q.unit = v ∧ p.value ≤ q.value ∧
      Quantity.valueIn units ⟨x, u⟩ v = .ok a ∧ Quantity.valueIn units ⟨y, u⟩ v = .ok b ∧
      (1 / 10 ^ 14 < |a - b| → p.value < q.value) := by
  refine ⟨_, _, _, _, convert_valueAt hd, convert_valueAt hd, rfl, rfl, valueAt_mono h,
    valueIn_units ⟨x, u⟩ v, valueIn_units ⟨y, u⟩ v, fun hapart => ?_⟩
  have hexact : fromBase v (toBase u x) ≤ fromBase v (toBase u y) := fromBase_toBase_mono u v h
  rw [abs_of_nonpos (sub_nonpos.mpr hexact), neg_sub] at hapart
  exact valueAt_lt_valueAt hapart

/-- Two temperatures that differ by a little more than a step of the grid. -/
theorem convert_mono_fahrenheit :
    ∃ p q : Quantity Rat,
      Quantity.convert units ⟨-40, .fahrenheit⟩ .celsius = .ok p ∧
      Quantity.convert units ⟨-40 + 2 / 10 ^ 14, .fahrenheit⟩ .celsius = .ok q ∧
      p.value < q.value := by
  obtain ⟨p, q, a, b, hp, hq, -, -, -, ha, hb, hstrict⟩ :=
    convert_mono (u := .fahrenheit) (v := .celsius) (x := -40) (y := -40 + 2 / 10 ^ 14) rfl
      (by norm_num)
  have hexact : Quantity.valueIn units ⟨-40, .fahrenheit⟩ .celsius = .ok (-40 : Rat) ∧
      Quantity.valueIn units ⟨-40 + 2 / 10 ^ 14, .fahrenheit⟩ .celsius =
        .ok (-40 + 10 / 9 / 10 ^ 14 : Rat) := by decide +kernel
  obtain rfl := Except.ok.inj (hexact.1.symm.trans ha)
  obtain rfl := Except.ok.inj (hexact.2.symm.trans hb)
  refine ⟨p, q, hp, hq, hstrict ?_⟩
  norm_num

end FlightUnits
