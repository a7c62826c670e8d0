import FlightUnits.Flight.Formula
import FlightUnits.Proofs.ExactSums
import FlightUnits.Proofs.PiecewiseLinear

/-!
# Dynamic pressure at speeds and altitudes

In exact arithmetic the dynamic pressure is a factor of the speed times the density ratio of the
altitude. The factor is a square, so it grows with the size of the speed, and the ratio follows the
polygonal line of its samples, which descends strictly from sea level to the last of them. Units
enter through the converted values only.
-/

namespace FlightUnits.Flight

open Standard

variable {v w h k : Quantity Rat} {x y : Rat}

/-! ### The density ratio -/

/-- The samples of the density ratio above sea level. -/
def samplesAloft : List (Rat × Rat) :=
  [(5000, 43 / 50), (10000, 37 / 50), (15000, 63 / 100), (20000, 53 / 100)]

/-- The density ratio at an altitude in feet, on the polygonal line through the samples. -/
def ratioAt (feet : Rat) : Rat := polyline (0, 1) samplesAloft feet

lemma densityRatioTable_exact :
    (densityRatioTable : List (Rat × Rat)) = (0, 1) :: samplesAloft := by decide +kernel

lemma isAscending_samples : IsAscending ((0, 1) :: samplesAloft) := by decide

lemma isStrictlyFalling_samples : IsStrictlyFalling ((0, 1) :: samplesAloft) := by
  norm_num [IsStrictlyFalling, samplesAloft]

lemma last_mem_samplesAloft : (20000, 53 / 100) ∈ samplesAloft := by simp [samplesAloft]

lemma exists_sample_of_le (hx : x ≤ 20000) : ∃ r ∈ samplesAloft, x ≤ r.1 :=
  ⟨(20000, 53 / 100), last_mem_samplesAloft, hx⟩

lemma interpolate_of_mem (hx : x ∈ Set.Icc 0 20000) :
    interpolate x densityRatioTable = .ok (ratioAt x) := by
  rw [densityRatioTable_exact]
  exact interpolate_eq_polyline isAscending_samples hx.1 (exists_sample_of_le hx.2)

lemma interpolate_of_notMem (hx : x ∉ Set.Icc 0 20000) :
    interpolate x densityRatioTable = .error (.outsideRange x 0 20000) := by
  have hlast : ((0, 1) :: samplesAloft).getLast? = some (20000, 53 / 100) := rfl
  rw [densityRatioTable_exact]
  exact interpolate_of_outside isAscending_samples hlast hx

lemma ratioAt_anti (hxy : x ≤ y) : ratioAt y ≤ ratioAt x :=
  polyline_anti isAscending_samples isStrictlyFalling_samples.isFalling hxy

lemma ratioAt_strictAnti (hxy : x < y) (hy : y ≤ 20000) : ratioAt y < ratioAt x :=
  polyline_strictAnti isAscending_samples isStrictlyFalling_samples hxy (exists_sample_of_le hy)

lemma ratioAt_zero : ratioAt 0 = 1 := polyline_start isAscending_samples

lemma ratioAt_last : ratioAt 20000 = 53 / 100 :=
  polyline_of_mem isAscending_samples (List.mem_cons_of_mem _ last_mem_samplesAloft)

lemma ratioAt_bounds (hx : x ∈ Set.Icc 0 20000) : 53 / 100 ≤ ratioAt x ∧ ratioAt x ≤ 1 := by
  constructor
  · rw [← ratioAt_last]
    exact ratioAt_anti hx.2
  · rw [← ratioAt_zero]
    exact ratioAt_anti hx.1

lemma densityRatio_exact (hh : dimension h.unit = .length) :
    densityRatio units h = interpolate (h.valueAt .foot) densityRatioTable := by
  rw [densityRatio, convert_valueAt hh, ok_bind]

/-! ### The factor of the speed -/

/-- The dynamic pressure in psf at sea level and a speed in mph. -/
def pressureAtSeaLevel (mph : Rat) : Rat := 256 / 100000 * mph * mph

lemma speedFactor_exact (hv : dimension v.unit = .velocity) :
    speedFactor units v = .ok (pressureAtSeaLevel (v.valueAt .milePerHour)) := by
  have hcoefficient : (Scalar.ofLiteral 0.00256 : Rat) = 256 / 100000 := by decide +kernel
  rw [speedFactor, convert_valueAt hv, ok_bind, hcoefficient]
  rfl

lemma pressureAtSeaLevel_nonneg (x : Rat) : 0 ≤ pressureAtSeaLevel x := by
  rw [pressureAtSeaLevel, mul_assoc]
  exact mul_nonneg (by norm_num) (mul_self_nonneg x)

lemma pressureAtSeaLevel_pos (hx : x ≠ 0) : 0 < pressureAtSeaLevel x := by
  rw [pressureAtSeaLevel, mul_assoc]
  exact mul_pos (by norm_num) (mul_self_pos.mpr hx)

lemma pressureAtSeaLevel_le (hxy : |x| ≤ |y|) : pressureAtSeaLevel x ≤ pressureAtSeaLevel y := by
  rw [pressureAtSeaLevel, pressureAtSeaLevel, mul_assoc, mul_assoc]
  exact mul_le_mul_of_nonneg_left (abs_le_iff_mul_self_le.mp hxy) (by norm_num)

/-! ### The product of both -/

lemma dynamicPressure_exact (hv : dimension v.unit = .velocity)
    (hh : dimension h.unit = .length) :
    dynamicPressure units v h = (do
      let ratio ← interpolate (h.valueAt .foot) densityRatioTable
      return ⟨pressureAtSeaLevel (v.valueAt .milePerHour) * ratio, .poundPerSquareFoot⟩) := by
  rw [dynamicPressure, speedFactor_exact hv, ok_bind, densityRatio_exact hh]
  rfl

lemma dynamicPressure_of_mem (hv : dimension v.unit = .velocity)
    (hh : dimension h.unit = .length) (hfeet : h.valueAt .foot ∈ Set.Icc 0 20000) :
    dynamicPressure units v h =
      .ok ⟨pressureAtSeaLevel (v.valueAt .milePerHour) * ratioAt (h.valueAt .foot),
        .poundPerSquareFoot⟩ := by
  rw [dynamicPressure_exact hv hh, interpolate_of_mem hfeet, ok_bind, pure_eq_ok]

lemma dynamicPressure_of_notMem (hv : dimension v.unit = .velocity)
    (hh : dimension h.unit = .length) (hfeet : h.valueAt .foot ∉ Set.Icc 0 20000) :
    dynamicPressure units v h = .error (.outsideRange (h.valueAt .foot) 0 20000) := by
  rw [dynamicPressure_exact hv hh, interpolate_of_notMem hfeet, error_bind]

lemma dynamicPressure_seaLevel (hv : dimension v.unit = .velocity) :
    dynamicPressure units v seaLevel =
      .ok ⟨pressureAtSeaLevel (v.valueAt .milePerHour), .poundPerSquareFoot⟩ := by
  have hzero : (seaLevel : Quantity Rat).valueAt .foot = 0 := valueAt_unit seaLevel
  have hmem : (seaLevel : Quantity Rat).valueAt .foot ∈ Set.Icc 0 20000 := by
    rw [hzero]
    norm_num
  rw [dynamicPressure_of_mem hv rfl hmem, hzero, ratioAt_zero, mul_one]

/--
The dynamic pressure of a velocity and an altitude in any units. It is given for the altitudes from
sea level to 20000 feet and lies between 0.53 times that at sea level and that itself. It descends
with the altitude, strictly unless the speed is zero, and ascends with the size of the speed.
-/
theorem dynamicPressure_monotone (hv : dimension v.unit = .velocity)
    (hw : dimension w.unit = .velocity) (hh : dimension h.unit = .length)
    (hk : dimension k.unit = .length) :
    ∃ mph mph' feet feet' sea : Rat,
      v.convert units .milePerHour = .ok ⟨mph, .milePerHour⟩ ∧
      w.convert units .milePerHour = .ok ⟨mph', .milePerHour⟩ ∧
      h.convert units .foot = .ok ⟨feet, .foot⟩ ∧
      k.convert units .foot = .ok ⟨feet', .foot⟩ ∧
      dynamicPressure units v seaLevel = .ok ⟨sea, .poundPerSquareFoot⟩ ∧
      (feet ∉ Set.Icc 0 20000 →
        dynamicPressure units v h = .error (.outsideRange feet 0 20000)) ∧
      (feet ∈ Set.Icc 0 20000 →
        ∃ p, dynamicPressure units v h = .ok ⟨p, .poundPerSquareFoot⟩ ∧
          53 / 100 * sea ≤ p ∧ p ≤ sea ∧
          (feet' ∈ Set.Icc 0 20000 → feet ≤ feet' →
            ∃ q, dynamicPressure units v k = .ok ⟨q, .poundPerSquareFoot⟩ ∧ q ≤ p ∧
              (feet < feet' → mph ≠ 0 → q < p)) ∧
          (|mph| ≤ |mph'| →
            ∃ q, dynamicPressure units w h = .ok ⟨q, .poundPerSquareFoot⟩ ∧ p ≤ q)) := by
  refine ⟨_, _, _, _, _, convert_valueAt hv, convert_valueAt hw, convert_valueAt hh,
    convert_valueAt hk, dynamicPressure_seaLevel hv, dynamicPressure_of_notMem hv hh, ?_⟩
  intro hfeet
  have hsea := pressureAtSeaLevel_nonneg (v.valueAt .milePerHour)
  obtain ⟨hlow, hhigh⟩ := ratioAt_bounds hfeet
  refine ⟨_, dynamicPressure_of_mem hv hh hfeet, ?_, mul_le_of_le_one_right hsea hhigh, ?_, ?_⟩
  · rw [mul_comm]
    exact mul_le_mul_of_nonneg_left hlow hsea
  · intro hfeet' hle
    refine ⟨_, dynamicPressure_of_mem hv hk hfeet',
      mul_le_mul_of_nonneg_left (ratioAt_anti hle) hsea, ?_⟩
    intro hlt hmph
    exact mul_lt_mul_of_pos_left (ratioAt_strictAnti hlt hfeet'.2) (pressureAtSeaLevel_pos hmph)
  · intro habs
    have hratio : 0 ≤ ratioAt (h.valueAt .foot) := le_trans (by norm_num) hlow
    exact ⟨_, dynamicPressure_of_mem hw hh hfeet,
      mul_le_mul_of_nonneg_right (pressureAtSeaLevel_le habs) hratio⟩

/-- Ninety knots at 1524 metres and at 10000 feet, against two hundred miles per hour backwards. -/
theorem dynamicPressure_monotone_knots :
    ∃ p q r : Rat,
      dynamicPressure units ⟨90, .knot⟩ ⟨1524, .metre⟩ = .ok ⟨p, .poundPerSquareFoot⟩ ∧
      dynamicPressure units ⟨90, .knot⟩ ⟨10000, .foot⟩ = .ok ⟨q, .poundPerSquareFoot⟩ ∧
      dynamicPressure units ⟨-200, .milePerHour⟩ ⟨1524, .metre⟩ = .ok ⟨r, .poundPerSquareFoot⟩ ∧
      q < p ∧ p ≤ r := by
  obtain ⟨mph, mph', feet, feet', sea, hmph, hmph', hfeet, hfeet', -, -, hpressure⟩ :=
    dynamicPressure_monotone (v := ⟨90, .knot⟩) (w := ⟨-200, .milePerHour⟩) (h := ⟨1524, .metre⟩)
      (k := ⟨10000, .foot⟩) rfl rfl rfl rfl
  have hspeed : Quantity.convert units ⟨(90 : Rat), .knot⟩ .milePerHour =
      .ok ⟨102, .milePerHour⟩ := by decide +kernel
  have hspeed' : Quantity.convert units ⟨(-200 : Rat), .milePerHour⟩ .milePerHour =
      .ok ⟨-200, .milePerHour⟩ := convert_self _
  have hheight : Quantity.convert units ⟨(1524 : Rat), .metre⟩ .foot = .ok ⟨5000, .foot⟩ := by
    decide +kernel
  have hheight' : Quantity.convert units ⟨(10000 : Rat), .foot⟩ .foot = .ok ⟨10000, .foot⟩ :=
    convert_self _
  obtain ⟨rfl, -⟩ := Quantity.mk.inj (Except.ok.inj (hspeed.symm.trans hmph))
  obtain ⟨rfl, -⟩ := Quantity.mk.inj (Except.ok.inj (hspeed'.symm.trans hmph'))
  obtain ⟨rfl, -⟩ := Quantity.mk.inj (Except.ok.inj (hheight.symm.trans hfeet))
  obtain ⟨rfl, -⟩ := Quantity.mk.inj (Except.ok.inj (hheight'.symm.trans hfeet'))
  obtain ⟨p, hp, -, -, haltitude, hsize⟩ := hpressure (by norm_num)
  obtain ⟨q, hq, -, hlt⟩ := haltitude (by norm_num) (by norm_num)
  obtain ⟨r, hr, hle⟩ := hsize (by norm_num)
  exact ⟨p, q, r, hp, hq, hr, hlt (by norm_num) (by norm_num), hle⟩

end FlightUnits.Flight
