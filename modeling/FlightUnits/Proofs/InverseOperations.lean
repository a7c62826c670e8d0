import FlightUnits.Proofs.ExactUnits

/-!
# Products and quotients undo each other

In exact arithmetic with the standard tables a product of two quantities commutes, dividing it by a
factor gives the other factor back, and multiplying a quotient by the divisor gives the dividend
back. What comes back is in the base unit of its dimension. The only inverse step that fails is a
division by zero.
-/

namespace FlightUnits

open Standard

namespace Operand

variable {p q : Quantity Rat} {r : Operand Rat}

lemma multiply_swap (h : multiply tables (quantity p) (quantity q) = .ok r) :
    multiply tables (quantity q) (quantity p) = .ok r := by
  obtain ⟨d, hd, rfl⟩ := multiply_eq_ok_iff.mp h
  rw [multiply_eq_ok_iff]
  refine ⟨d, multiplyDimensions_comm hd, ?_⟩
  rw [mul_comm]

lemma unit_ne_fahrenheit_of_multiply (h : multiply tables (quantity p) (quantity q) = .ok r) :
    q.unit ≠ .fahrenheit := by
  obtain ⟨d, hd, -⟩ := multiply_eq_ok_iff.mp h
  exact ne_fahrenheit_of_dimension (ne_temperature_of_multiplyDimensions hd)

lemma divide_multiply (h : multiply tables (quantity p) (quantity q) = .ok r) :
    divide tables r (quantity q) =
      if toBase q.unit q.value = 0 then .error (.arithmetic (.divisionByZero false))
      else .ok (quantity p.inBase) := by
  obtain ⟨d, hd, rfl⟩ := multiply_eq_ok_iff.mp h
  rw [divide_exact, dimension_baseUnit, divideDimensions_of_multiplyDimensions hd, ok_bind]
  split
  next => rfl
  next hq => rw [toBase_baseUnit, mul_div_cancel_right₀ _ hq, Quantity.inBase, pure_eq_ok]

lemma multiply_divide (h : divide tables (quantity p) (quantity q) = .ok r) :
    multiply tables r (quantity q) = .ok (quantity p.inBase) := by
  obtain ⟨d, hd, hq, rfl⟩ := divide_eq_ok_iff.mp h
  rw [multiply_eq_ok_iff]
  refine ⟨dimension p.unit, ?_, ?_⟩
  · rw [dimension_baseUnit]
    exact multiplyDimensions_of_divideDimensions hd
  · rw [toBase_baseUnit, div_mul_cancel₀ _ hq, Quantity.inBase]

/--
Products commute, and products and quotients undo each other. A product divided by its right
factor, and a quotient multiplied by its divisor, is the left operand in the base unit of its
dimension; only a factor of zero cannot be divided by.
-/
theorem multiply_divide_inverse (p q : Quantity Rat) :
    ∃ b, p.toBaseUnit units = .ok b ∧
      (∀ r, multiply tables (quantity p) (quantity q) = .ok r →
        multiply tables (quantity q) (quantity p) = .ok r ∧
        (q.value ≠ 0 → divide tables r (quantity q) = .ok (quantity b)) ∧
        (q.value = 0 →
          divide tables r (quantity q) = .error (.arithmetic (.divisionByZero false)))) ∧
      (∀ r, divide tables (quantity p) (quantity q) = .ok r →
        multiply tables r (quantity q) = .ok (quantity b)) := by
  refine ⟨p.inBase, toBaseUnit_units p, fun r h => ?_, fun r h => multiply_divide h⟩
  have hzero := toBase_eq_zero_iff (x := q.value) (unit_ne_fahrenheit_of_multiply h)
  refine ⟨multiply_swap h, fun hq => ?_, fun hq => ?_⟩
  · rw [divide_multiply h, if_neg (mt hzero.mp hq)]
  · rw [divide_multiply h, if_pos (hzero.mpr hq)]

/-- An area of centimetres by feet, divided by the feet again, and a length made of an area. -/
theorem multiply_divide_inverse_area :
    multiply tables (quantity ⟨3, .foot⟩) (quantity ⟨200, .centimetre⟩) =
      .ok (quantity ⟨(18288 / 10000 : Rat), .squareMetre⟩) ∧
    divide tables (quantity ⟨18288 / 10000, .squareMetre⟩) (quantity ⟨3, .foot⟩) =
      .ok (quantity ⟨(2 : Rat), .metre⟩) ∧
    divide tables (quantity ⟨0, .squareMetre⟩) (quantity ⟨0, .foot⟩) =
      .error (.arithmetic (.divisionByZero false) : Fault Rat) ∧
    multiply tables (quantity ⟨2, .metre⟩) (quantity ⟨3, .foot⟩) =
      .ok (quantity ⟨(18288 / 10000 : Rat), .squareMetre⟩) := by
  have hbase : Quantity.toBaseUnit units ⟨200, .centimetre⟩ = .ok (⟨2, .metre⟩ : Quantity Rat) := by
    decide +kernel
  have hmetric : Quantity.toBaseUnit units ⟨18288 / 10000, .squareMetre⟩ =
      .ok (⟨18288 / 10000, .squareMetre⟩ : Quantity Rat) := by decide +kernel
  have harea : multiply tables (quantity ⟨200, .centimetre⟩) (quantity ⟨3, .foot⟩) =
      .ok (quantity ⟨(18288 / 10000 : Rat), .squareMetre⟩) := by decide +kernel
  have hnone : multiply tables (quantity ⟨200, .centimetre⟩) (quantity ⟨0, .foot⟩) =
      .ok (quantity ⟨(0 : Rat), .squareMetre⟩) := by decide +kernel
  have hlength : divide tables (quantity ⟨18288 / 10000, .squareMetre⟩) (quantity ⟨3, .foot⟩) =
      .ok (quantity ⟨(2 : Rat), .metre⟩) := by decide +kernel
  obtain ⟨b, hb, hmul, -⟩ := multiply_divide_inverse ⟨200, .centimetre⟩ ⟨3, .foot⟩
  obtain ⟨_, -, hzero, -⟩ := multiply_divide_inverse ⟨200, .centimetre⟩ ⟨0, .foot⟩
  obtain ⟨c, hc, -, hdiv⟩ := multiply_divide_inverse ⟨18288 / 10000, .squareMetre⟩ ⟨3, .foot⟩
  obtain rfl := Except.ok.inj (hbase.symm.trans hb)
  obtain rfl := Except.ok.inj (hmetric.symm.trans hc)
  obtain ⟨hswap, hback, -⟩ := hmul _ harea
  exact ⟨hswap, hback (by decide), (hzero _ hnone).2.2 rfl, hdiv _ hlength⟩

end Operand

end FlightUnits
