import FlightUnits.Proofs.StandardArithmetic
import Mathlib.Algebra.Order.Field.Rat
import Mathlib.Tactic.FieldSimp
import Mathlib.Tactic.Linarith
import Mathlib.Tactic.NormNum
import Mathlib.Tactic.Ring

/-!
# The standard units in exact arithmetic

Over the rationals every conversion of the standard table is a line: a value goes to the base unit
by `slope u * x + offset u`, with a positive slope, and the offset is zero but for Fahrenheit. So
conversions never fail, and products and quotients of quantities are those of the base values.
-/

namespace FlightUnits

namespace Standard

/-- The size of one step of a unit in base units: its factor, or that of Fahrenheit. -/
def slope (u : MeasureUnit) : Rat := (entry u : Descriptor Rat).conversion.factor?.getD (5 / 9)

/-- The value in the base unit of the zero of a unit. -/
def offset (u : MeasureUnit) : Rat := if u = .fahrenheit then -(160 / 9) else 0

/-- A value in a unit, expressed in the base unit. -/
def toBase (u : MeasureUnit) (x : Rat) : Rat := slope u * x + offset u

/-- A value in the base unit, expressed in a unit. -/
def fromBase (u : MeasureUnit) (y : Rat) : Rat := (y - offset u) / slope u

lemma slope_pos (u : MeasureUnit) : 0 < slope u := by
  cases u <;> decide +kernel

lemma slope_ne_zero (u : MeasureUnit) : slope u ≠ 0 := (slope_pos u).ne'

@[simp] lemma slope_baseUnit (d : Dimension) : slope (baseUnit d) = 1 := by
  cases d <;> decide +kernel

lemma offset_of_ne {u : MeasureUnit} (h : u ≠ .fahrenheit) : offset u = 0 := if_neg h

lemma conversion_entry {u : MeasureUnit} (h : u ≠ .fahrenheit) :
    (entry u : Descriptor Rat).conversion = .scalar (slope u) := by
  cases u <;> first | rfl | contradiction

lemma toBase_fahrenheit (x : Rat) : toBase .fahrenheit x = 5 / 9 * (x - 32) := by
  have hs : slope .fahrenheit = 5 / 9 := by decide +kernel
  rw [toBase, hs, offset, if_pos rfl]
  ring

lemma fromBase_fahrenheit (y : Rat) : fromBase .fahrenheit y = 9 / 5 * y + 32 := by
  have hs : slope .fahrenheit = 5 / 9 := by decide +kernel
  rw [fromBase, hs, offset, if_pos rfl]
  ring

lemma celsiusOfFahrenheit_exact (x : Rat) :
    celsiusOfFahrenheit x = .ok (toBase .fahrenheit x) := by
  have h32 : (Scalar.ofLiteral 32 : Rat) = 32 := by decide +kernel
  have h59 : (Scalar.ofLiteral (5 / 9) : Rat) = 5 / 9 := by decide +kernel
  rw [toBase_fahrenheit, ← h32, ← h59]
  rfl

lemma fahrenheitOfCelsius_exact (y : Rat) :
    fahrenheitOfCelsius y = .ok (fromBase .fahrenheit y) := by
  have h32 : (Scalar.ofLiteral 32 : Rat) = 32 := by decide +kernel
  have h95 : (Scalar.ofLiteral (9 / 5) : Rat) = 9 / 5 := by decide +kernel
  rw [fromBase_fahrenheit, ← h32, ← h95]
  rfl

/-- The line of a unit is its conversion to the base unit. -/
@[simp] lemma toBase_entry (u : MeasureUnit) (x : Rat) :
    (entry u).conversion.toBase x = .ok (toBase u x) := by
  by_cases h : u = .fahrenheit
  · subst h
    exact celsiusOfFahrenheit_exact x
  · rw [conversion_entry h, toBase, offset_of_ne h, add_zero, mul_comm]
    rfl

@[simp] lemma fromBase_entry (u : MeasureUnit) (y : Rat) :
    (entry u).conversion.fromBase y = .ok (fromBase u y) := by
  by_cases h : u = .fahrenheit
  · subst h
    exact fahrenheitOfCelsius_exact y
  · rw [conversion_entry h, fromBase, offset_of_ne h, sub_zero]
    exact if_neg (slope_ne_zero u)

@[simp] lemma fromBase_toBase (u : MeasureUnit) (x : Rat) : fromBase u (toBase u x) = x := by
  rw [fromBase, toBase, add_sub_cancel_right, mul_div_cancel_left₀ x (slope_ne_zero u)]

@[simp] lemma toBase_fromBase (u : MeasureUnit) (y : Rat) : toBase u (fromBase u y) = y := by
  rw [fromBase, toBase, mul_div_cancel₀ _ (slope_ne_zero u), sub_add_cancel]

@[simp] lemma toBase_baseUnit (d : Dimension) (x : Rat) : toBase (baseUnit d) x = x := by
  rw [toBase, slope_baseUnit, offset_of_ne (baseUnit_ne_fahrenheit d), one_mul, add_zero]

@[simp] lemma fromBase_baseUnit (d : Dimension) (y : Rat) : fromBase (baseUnit d) y = y := by
  rw [fromBase, slope_baseUnit, offset_of_ne (baseUnit_ne_fahrenheit d), sub_zero, div_one]

lemma dimension_fahrenheit : dimension .fahrenheit = .temperature := rfl

lemma ne_fahrenheit_of_dimension {u : MeasureUnit} (h : dimension u ≠ .temperature) :
    u ≠ .fahrenheit := by
  rintro rfl
  exact h dimension_fahrenheit

lemma toBase_eq_zero_iff {u : MeasureUnit} (h : u ≠ .fahrenheit) {x : Rat} :
    toBase u x = 0 ↔ x = 0 := by
  rw [toBase, offset_of_ne h, add_zero, mul_eq_zero, or_iff_right (slope_ne_zero u)]

lemma toBase_of_ne {u : MeasureUnit} (h : u ≠ .fahrenheit) (x : Rat) :
    toBase u x = slope u * x := by
  rw [toBase, offset_of_ne h, add_zero]

end Standard

open Standard

/-- A quantity expressed in the base unit of its dimension, without rounding. -/
def Quantity.toBaseUnit {α : Type} [Scalar α] (t : UnitTable α) (q : Quantity α) :
    Except (Fault α) (Quantity α) := do
  let entry ← t.lookup q.unit ""
  let unit ← t.baseUnitOf entry.dimension
  let value ← entry.conversion.toBase q.value
  return ⟨value, unit⟩

/-- What a quantity is in the base unit of its dimension in the standard table. -/
def Quantity.inBase (q : Quantity Rat) : Quantity Rat :=
  ⟨toBase q.unit q.value, baseUnit (Standard.dimension q.unit)⟩

@[simp] lemma toBaseUnit_units (q : Quantity Rat) : q.toBaseUnit units = .ok q.inBase := by
  simp [Quantity.toBaseUnit, Quantity.inBase]

/-- A conversion to another unit of the dimension rounds the exact value. -/
lemma convert_exact {q : Quantity Rat} {u : MeasureUnit} (h : dimension q.unit = dimension u)
    (hne : u ≠ q.unit) :
    q.convert units u =
      .ok ⟨Scalar.roundRat convertedPlaces (fromBase u (toBase q.unit q.value)), u⟩ := by
  rw [convert_of_eq h hne]
  simp only [toBase_entry, fromBase_entry, liftM_ok, ok_bind]
  rfl

namespace Operand

variable {p q : Quantity Rat} {r : Operand Rat}

lemma multiply_exact (p q : Quantity Rat) :
    multiply tables (quantity p) (quantity q) = (do
      let d ← multiplyDimensions relations (dimension p.unit) (dimension q.unit)
      return quantity ⟨toBase p.unit p.value * toBase q.unit q.value, baseUnit d⟩) := by
  rw [multiply, scale_quantities]
  simp only [toBase_entry, liftM_ok, ok_bind]
  rfl

lemma divide_exact (p q : Quantity Rat) :
    divide tables (quantity p) (quantity q) = (do
      let d ← divideDimensions relations (dimension p.unit) (dimension q.unit)
      if toBase q.unit q.value = 0 then throw (.arithmetic (.divisionByZero false))
      else return quantity ⟨toBase p.unit p.value / toBase q.unit q.value, baseUnit d⟩) := by
  rw [divide, scale_quantities]
  simp only [toBase_entry, liftM_ok, ok_bind, Scalar.div]
  congr 1
  funext d
  split <;> rfl

lemma multiply_eq_ok_iff :
    multiply tables (quantity p) (quantity q) = .ok r ↔
      ∃ d, (multiplyDimensions relations (dimension p.unit) (dimension q.unit) :
          Except (Fault Rat) Dimension) = .ok d ∧
        r = quantity ⟨toBase p.unit p.value * toBase q.unit q.value, baseUnit d⟩ := by
  rw [multiply_exact, bind_eq_ok_iff]
  simp only [pure_eq_ok, Except.ok.injEq, eq_comm]

lemma divide_eq_ok_iff :
    divide tables (quantity p) (quantity q) = .ok r ↔
      ∃ d, (divideDimensions relations (dimension p.unit) (dimension q.unit) :
          Except (Fault Rat) Dimension) = .ok d ∧ toBase q.unit q.value ≠ 0 ∧
        r = quantity ⟨toBase p.unit p.value / toBase q.unit q.value, baseUnit d⟩ := by
  rw [divide_exact, bind_eq_ok_iff]
  refine exists_congr fun d => and_congr_right fun _ => ?_
  split <;> simp_all [eq_comm]

end Operand

end FlightUnits
