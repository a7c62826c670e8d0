import FlightUnits.Proofs.ExactSums
import FlightUnits.Proofs.ExchangeGuard

/-!
# How close the handbook is to the definitions

A quantity converted with the handbook's factors against the same quantity that went through the
exchange, in exact arithmetic. No factor of the handbook is more than 1.12 percent below the size of
its unit and none more than 0.67 percent above, so that even where the errors of two units add up
the factor between them is within two percent. Temperatures have the same conversions on both
sides. What is left is that both results are rounded.
-/

namespace FlightUnits.Exchange

open Standard (slope slope_pos toBase fromBase)

variable {q : Quantity Rat} {u v : MeasureUnit} {z : Rat}

/-! ### The sizes of units -/

lemma size_pos (u : MeasureUnit) : 0 < size u := by
  cases u <;> decide +kernel

/-- Against the definitions the cubic foot errs most from below, and mph most from above. -/
lemma slope_near_size (u : MeasureUnit) :
    9888 / 10000 * size u ≤ slope u ∧ slope u ≤ 10067 / 10000 * size u := by
  cases u <;> decide +kernel

/-- Between two units the handbook is within two percent. -/
lemma abs_slope_div_sub_le (u v : MeasureUnit) :
    |slope u / slope v - size u / size v| ≤ 2 / 100 * (size u / size v) := by
  obtain ⟨hulow, huhigh⟩ := slope_near_size u
  obtain ⟨hvlow, hvhigh⟩ := slope_near_size v
  have hratio : 0 < size u / size v := div_pos (size_pos u) (size_pos v)
  have hsize : size u / size v * size v = size u := div_mul_cancel₀ _ (size_pos v).ne'
  have hsmall : 9888 / 10000 * size u ≤ size u / size v * slope v := by
    calc
      9888 / 10000 * size u = size u / size v * (9888 / 10000 * size v) := by
        rw [mul_left_comm, hsize]
      _ ≤ size u / size v * slope v := mul_le_mul_of_nonneg_left hvlow hratio.le
  have hgreat : size u / size v * slope v ≤ 10067 / 10000 * size u := by
    calc
      size u / size v * slope v ≤ size u / size v * (10067 / 10000 * size v) :=
        mul_le_mul_of_nonneg_left hvhigh hratio.le
      _ = 10067 / 10000 * size u := by rw [mul_left_comm, hsize]
  have hlow : 98 / 100 * (size u / size v) ≤ slope u / slope v := by
    rw [le_div_iff₀ (slope_pos v), mul_assoc]
    linarith [size_pos u]
  have hhigh : slope u / slope v ≤ 102 / 100 * (size u / size v) := by
    rw [div_le_iff₀ (slope_pos v), mul_assoc]
    linarith [size_pos u]
  rw [abs_le]
  constructor <;> linarith

/-! ### Values in the exchange -/

lemma value_of_ne_temperature (h : Standard.dimension q.unit ≠ .temperature) :
    value q u = .ok (q.value * (size q.unit / size u)) := by
  have hcelsius : q.unit ≠ .celsius := by
    intro hq
    exact h (by rw [hq]; rfl)
  have hfahrenheit : q.unit ≠ .fahrenheit := Standard.ne_fahrenheit_of_dimension h
  by_cases hu : q.unit = u
  · rw [value, if_pos hu, ← hu, div_self (size_pos q.unit).ne', mul_one]
  · rw [value, if_neg hu, if_neg hcelsius, if_neg hfahrenheit]
    rfl

lemma viaKelvin_exact {degree offset goalOffset goalDegree : Literal} (x : Rat)
    (h : goalDegree.exact ≠ 0) :
    viaKelvin degree offset goalOffset goalDegree x =
      .ok ((x * degree.exact + offset.exact - goalOffset.exact) / goalDegree.exact) := if_neg h

/-- Over the rationals the way through kelvins is the conversion of the standard table. -/
lemma value_of_temperature (hq : Standard.dimension q.unit = .temperature)
    (hu : Standard.dimension u = .temperature) :
    value q u = .ok (fromBase u (toBase q.unit q.value)) := by
  obtain ⟨x, w⟩ := q
  have hfreezing : celsiusOffset.exact = 27315 / 100 := by decide +kernel
  have hzero : fahrenheitOffset.exact = 45967 / 180 := rfl
  have hdegree : fahrenheitDegree.exact = 5 / 9 := rfl
  have hone : (1 : Literal).exact = 1 := by decide +kernel
  have htoCelsius : toBase .celsius x = x := Standard.toBase_baseUnit .temperature x
  have hofCelsius (y : Rat) : fromBase .celsius y = y := Standard.fromBase_baseUnit .temperature y
  rcases Operand.eq_of_dimension_temperature hq with rfl | rfl <;>
    rcases Operand.eq_of_dimension_temperature hu with rfl | rfl
  · rw [Standard.fromBase_toBase]
    rfl
  · have hvia : value ⟨x, .celsius⟩ .fahrenheit =
        viaKelvin 1 celsiusOffset fahrenheitOffset fahrenheitDegree x := rfl
    have hkelvin : (x * 1 + 27315 / 100 - 45967 / 180) / (5 / 9) = 9 / 5 * x + 32 := by ring
    rw [hvia, viaKelvin_exact x (by rw [hdegree]; norm_num), hone, hfreezing, hzero, hdegree,
      hkelvin, htoCelsius, Standard.fromBase_fahrenheit]
  · have hvia : value ⟨x, .fahrenheit⟩ .celsius =
        viaKelvin fahrenheitDegree fahrenheitOffset celsiusOffset 1 x := rfl
    have hkelvin : (x * (5 / 9) + 45967 / 180 - 27315 / 100) / 1 = 5 / 9 * (x - 32) := by ring
    rw [hvia, viaKelvin_exact x (by rw [hone]; norm_num), hone, hfreezing, hzero, hdegree,
      hkelvin, hofCelsius, Standard.toBase_fahrenheit]
  · rw [Standard.fromBase_toBase]
    rfl

/-! ### The two results -/

lemma compatible_of_eq (h : Standard.dimension q.unit = Standard.dimension u) :
    compatible q.unit u := by
  rw [compatible_iff_exponents, exponents_of, exponents_of, h]

lemma takeBack_exact (h : Standard.dimension q.unit = Standard.dimension u)
    (hz : value q u = .ok z) :
    takeBack Standard.units q (.known u) = .ok ⟨Scalar.roundRat convertedPlaces z, u⟩ := by
  have hto : to? q u = some (.ok ⟨z, u⟩) := by
    rw [to?, if_pos (compatible_of_eq h), hz, Except.map]
  rw [takeBack, UnitTag.resolve, ok_bind, Standard.lookup_units, ok_bind, hto]
  rfl

lemma abs_valueAt_sub_le (q : Quantity Rat) (u : MeasureUnit) :
    |q.valueAt u - fromBase u (toBase q.unit q.value)| ≤ 1 / 2 / 10 ^ 14 := by
  by_cases h : u = q.unit
  · subst h
    rw [valueAt_unit, Standard.fromBase_toBase, sub_self, abs_zero]
    positivity
  · rw [valueAt_of_ne h]
    exact Scalar.abs_roundRat_sub_le convertedPlaces _

/-- Both results are rounded once, so they differ by a step more than what they are rounded from. -/
lemma abs_roundRat_sub_valueAt_le {d : Rat} (q : Quantity Rat) (u : MeasureUnit)
    (h : |z - fromBase u (toBase q.unit q.value)| ≤ d) :
    |Scalar.roundRat convertedPlaces z - q.valueAt u| ≤ d + 1 / 10 ^ 14 := by
  have hround := Scalar.abs_roundRat_sub_le convertedPlaces z
  have hconverted := abs_valueAt_sub_le q u
  rw [abs_sub_comm] at hconverted
  calc
    |Scalar.roundRat convertedPlaces z - q.valueAt u| ≤
        |Scalar.roundRat convertedPlaces z - z| + |z - q.valueAt u| := abs_sub_le _ _ _
    _ ≤ |Scalar.roundRat convertedPlaces z - z| + (|z - fromBase u (toBase q.unit q.value)| +
        |fromBase u (toBase q.unit q.value) - q.valueAt u|) := by
      gcongr
      exact abs_sub_le _ _ _
    _ ≤ 1 / 2 / 10 ^ 14 + (d + 1 / 2 / 10 ^ 14) := add_le_add hround (add_le_add h hconverted)
    _ = d + 1 / 10 ^ 14 := by ring

/-- Before rounding the two sides are within two percent. -/
lemma abs_sub_fromBase_toBase_le (hq : q.unit ≠ .fahrenheit) (hu : u ≠ .fahrenheit) :
    |q.value * (size q.unit / size u) - fromBase u (toBase q.unit q.value)| ≤
      2 / 100 * |q.value * (size q.unit / size u)| := by
  have hratio : 0 < size q.unit / size u := div_pos (size_pos _) (size_pos _)
  have hdiff : q.value * (size q.unit / size u) - fromBase u (toBase q.unit q.value) =
      q.value * (size q.unit / size u - slope q.unit / slope u) := by
    rw [fromBase, Standard.toBase_of_ne hq, Standard.offset_of_ne hu]
    ring
  rw [hdiff, abs_mul, abs_mul, abs_of_pos hratio, abs_sub_comm, mul_left_comm]
  exact mul_le_mul_of_nonneg_left (abs_slope_div_sub_le _ _) (abs_nonneg _)

/--
A quantity that went through the exchange against the same quantity converted, for all units of one
dimension. They differ by no more than two percent of the exact value and a step of the decimal
grid; two temperatures differ by a step at most.
-/
theorem takeBack_near_convert (h : Standard.dimension q.unit = Standard.dimension u) :
    ∃ x y : Rat,
      takeBack Standard.units q (.known u) = .ok ⟨x, u⟩ ∧
      q.convertTo Standard.units (.known u) = .ok ⟨y, u⟩ ∧
      (Standard.dimension u ≠ .temperature →
        |x - y| ≤ 2 / 100 *
          |q.value * ((Definition.of q.unit).size / (Definition.of u).size)| + 1 / 10 ^ 14) ∧
      (Standard.dimension u = .temperature → |x - y| ≤ 1 / 10 ^ 14) := by
  have hconvert : q.convertTo Standard.units (.known u) = .ok ⟨q.valueAt u, u⟩ := by
    rw [Quantity.convertTo, Standard.lookup_units, ok_bind, UnitTag.resolve, ok_bind,
      convert_valueAt h]
  by_cases hu : Standard.dimension u = .temperature
  · have hvalue := value_of_temperature (h.trans hu) hu
    refine ⟨_, _, takeBack_exact h hvalue, hconvert, absurd hu, fun _ => ?_⟩
    have hequal :
        |fromBase u (toBase q.unit q.value) - fromBase u (toBase q.unit q.value)| ≤ 0 := by
      rw [sub_self, abs_zero]
    have hclose := abs_roundRat_sub_valueAt_le q u hequal
    rwa [zero_add] at hclose
  · have hq : Standard.dimension q.unit ≠ .temperature := h.trans_ne hu
    refine ⟨_, _, takeBack_exact h (value_of_ne_temperature hq), hconvert, fun _ => ?_,
      fun htemperature => absurd htemperature hu⟩
    rw [size_of, size_of]
    exact abs_roundRat_sub_valueAt_le q u
      (abs_sub_fromBase_toBase_le (Standard.ne_fahrenheit_of_dimension hq)
        (Standard.ne_fahrenheit_of_dimension hu))

/--
A hundred miles per hour in knots, where the errors of both factors add up to more than one and a
half percent; and a third of a degree, which only the exchange rounds.
-/
theorem takeBack_near_convert_knots :
    (∃ x y : Rat,
      takeBack Standard.units ⟨100, .milePerHour⟩ (.known .knot) = .ok ⟨x, .knot⟩ ∧
      Quantity.convertTo Standard.units ⟨100, .milePerHour⟩ (.known .knot) = .ok ⟨y, .knot⟩ ∧
      15 / 1000 * |100 * ((Definition.of .milePerHour).size / (Definition.of .knot).size)| <
        |x - y| ∧
      |x - y| ≤ 2 / 100 *
        |100 * ((Definition.of .milePerHour).size / (Definition.of .knot).size)| + 1 / 10 ^ 14) ∧
    ∃ x : Rat,
      takeBack Standard.units ⟨1 / 3, .celsius⟩ (.known .celsius) = .ok ⟨x, .celsius⟩ ∧
      x ≠ 1 / 3 ∧ |x - 1 / 3| ≤ 1 / 10 ^ 14 := by
  constructor
  · obtain ⟨x, y, hx, hy, hspeeds, -⟩ :=
      takeBack_near_convert (q := ⟨100, .milePerHour⟩) (u := .knot) rfl
    have hback : takeBack Standard.units ⟨(100 : Rat), .milePerHour⟩ (.known .knot) =
        .ok ⟨8689762419006479 / 100000000000000, .knot⟩ := by decide +kernel
    have hconverted : Quantity.convertTo Standard.units ⟨(100 : Rat), .milePerHour⟩
        (.known .knot) = .ok ⟨4411764705882353 / 50000000000000, .knot⟩ := by decide +kernel
    obtain rfl := value_eq_of_eq_ok hback hx
    obtain rfl := value_eq_of_eq_ok hconverted hy
    exact ⟨_, _, hx, hy, by decide +kernel, hspeeds (by decide)⟩
  · obtain ⟨x, y, hx, hy, -, htemperatures⟩ :=
      takeBack_near_convert (q := ⟨1 / 3, .celsius⟩) (u := .celsius) rfl
    have hback : takeBack Standard.units ⟨(1 / 3 : Rat), .celsius⟩ (.known .celsius) =
        .ok ⟨33333333333333 / 100000000000000, .celsius⟩ := by decide +kernel
    have hconverted : Quantity.convertTo Standard.units ⟨(1 / 3 : Rat), .celsius⟩
        (.known .celsius) = .ok ⟨1 / 3, .celsius⟩ := by decide +kernel
    obtain rfl := value_eq_of_eq_ok hback hx
    obtain rfl := value_eq_of_eq_ok hconverted hy
    exact ⟨_, hx, by norm_num, htemperatures rfl⟩

end FlightUnits.Exchange
