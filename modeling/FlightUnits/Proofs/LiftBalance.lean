import FlightUnits.Proofs.DynamicPressure

/-!
# The balance of weight and lift

Wing area, lift, lift coefficient and wing loading in exact arithmetic. Each is a product or a
quotient of the weight in pounds, the area in square feet and the psf that a pressure or a velocity
stands for. The area that lifts a weight is found in square feet, so the other formulae take it over
as it is, and with it the lift is the weight.
-/

namespace FlightUnits.Flight

open Standard

lemma div_of_ne {x y : Rat} (hy : y ≠ 0) : Scalar.div x y = .ok (x / y) := if_neg hy

/-! ### The formulae on converted values -/

section Formulae

variable {t : UnitTable Rat} {w p s : Quantity Rat} {cl psf pounds area : Rat}

lemma wingAreaRequired_exact (hw : w.convert t .pound = .ok ⟨pounds, .pound⟩)
    (hp : pressureValue t p = .ok psf) (hne : psf * cl ≠ 0) :
    wingAreaRequired t w p cl = .ok ⟨pounds / (psf * cl), .squareFoot⟩ := by
  have hlifted : Scalar.mul psf cl = .ok (psf * cl) := rfl
  rw [wingAreaRequired, hw, ok_bind, hp, ok_bind, hlifted, liftM_ok, ok_bind, div_of_ne hne]
  rfl

lemma lift_exact (hs : s.convert t .squareFoot = .ok ⟨area, .squareFoot⟩)
    (hp : pressureValue t p = .ok psf) :
    lift t cl s p = .ok ⟨cl * area * psf, .poundForce⟩ := by
  rw [lift, hs, ok_bind, hp]
  rfl

lemma liftCoefficient_exact (hw : w.convert t .pound = .ok ⟨pounds, .pound⟩)
    (hs : s.convert t .squareFoot = .ok ⟨area, .squareFoot⟩) (hp : pressureValue t p = .ok psf)
    (hne : psf * area ≠ 0) : liftCoefficient t w p s = .ok (pounds / (psf * area)) := by
  have hlifted : Scalar.mul psf area = .ok (psf * area) := rfl
  rw [liftCoefficient, hw, ok_bind, hs, ok_bind, hp, ok_bind, hlifted, liftM_ok, ok_bind,
    div_of_ne hne, liftM_ok]

lemma wingLoading_exact (hw : w.convert t .pound = .ok ⟨pounds, .pound⟩)
    (hs : s.convert t .squareFoot = .ok ⟨area, .squareFoot⟩) (hne : area ≠ 0) :
    wingLoading t w s = .ok ⟨pounds / area, .poundPerSquareFoot⟩ := by
  rw [wingLoading, hw, ok_bind, hs, ok_bind, div_of_ne hne]
  rfl

end Formulae

/-! ### The balance -/

variable {w p : Quantity Rat}

lemma pressureValue_of_pressure (hp : dimension p.unit = .pressure) :
    pressureValue units p = .ok (p.valueAt .poundPerSquareFoot) := by
  have hne : dimension p.unit ≠ .velocity := by
    rw [hp]
    decide
  rw [pressureValue, dimension_quantity, ok_bind, if_neg hne, convert_valueAt hp]
  rfl

lemma pressureValue_of_velocity (hp : dimension p.unit = .velocity) :
    pressureValue units p = .ok (pressureAtSeaLevel (p.valueAt .milePerHour)) := by
  rw [pressureValue, dimension_quantity, ok_bind, if_pos hp, dynamicPressure_seaLevel hp]
  rfl

/-- The value in psf that stands in the formulae for a pressure or a velocity. -/
lemma exists_pressureValue (hp : dimension p.unit = .pressure ∨ dimension p.unit = .velocity) :
    ∃ psf, pressureValue units p = .ok psf ∧
      (dimension p.unit = .pressure →
        p.convert units .poundPerSquareFoot = .ok ⟨psf, .poundPerSquareFoot⟩) ∧
      (dimension p.unit = .velocity →
        dynamicPressure units p seaLevel = .ok ⟨psf, .poundPerSquareFoot⟩) := by
  rcases hp with hp | hp
  · refine ⟨_, pressureValue_of_pressure hp, fun _ => convert_valueAt hp, ?_⟩
    intro hvelocity
    cases hp.symm.trans hvelocity
  · refine ⟨_, pressureValue_of_velocity hp, ?_, fun _ => dynamicPressure_seaLevel hp⟩
    intro hpressure
    cases hp.symm.trans hpressure

/--
A wing of the area that lifts a weight, for any pressure or velocity that comes to a psf value other
than zero and any lift coefficient other than zero: its lift is the weight. Unless the weight is
zero, the lift coefficient found for it is the one that was given, and its loading is the psf value
times the coefficient.
-/
theorem lift_balances_weight (hw : dimension w.unit = .mass)
    (hp : dimension p.unit = .pressure ∨ dimension p.unit = .velocity) :
    ∃ pounds psf : Rat,
      w.convert units .pound = .ok ⟨pounds, .pound⟩ ∧
      (dimension p.unit = .pressure →
        p.convert units .poundPerSquareFoot = .ok ⟨psf, .poundPerSquareFoot⟩) ∧
      (dimension p.unit = .velocity →
        dynamicPressure units p seaLevel = .ok ⟨psf, .poundPerSquareFoot⟩) ∧
      (psf ≠ 0 → ∀ cl : Rat, cl ≠ 0 →
        ∃ area, wingAreaRequired units w p cl = .ok ⟨area, .squareFoot⟩ ∧
          lift units cl ⟨area, .squareFoot⟩ p = .ok ⟨pounds, .poundForce⟩ ∧
          (pounds ≠ 0 →
            liftCoefficient units w p ⟨area, .squareFoot⟩ = .ok cl ∧
            wingLoading units w ⟨area, .squareFoot⟩ =
              .ok ⟨psf * cl, .poundPerSquareFoot⟩)) := by
  obtain ⟨psf, hvalue, hpressure, hvelocity⟩ := exists_pressureValue hp
  obtain ⟨pounds, hpounds⟩ : ∃ pounds, w.convert units .pound = .ok ⟨pounds, .pound⟩ :=
    ⟨_, convert_valueAt hw⟩
  refine ⟨pounds, psf, hpounds, hpressure, hvelocity, ?_⟩
  intro hpsf cl hcl
  have hlifted : psf * cl ≠ 0 := mul_ne_zero hpsf hcl
  -- the area that is found is in square feet, so converting it changes nothing
  have harea : Quantity.convert units ⟨pounds / (psf * cl), .squareFoot⟩ .squareFoot =
      .ok ⟨pounds / (psf * cl), .squareFoot⟩ := convert_self _
  refine ⟨_, wingAreaRequired_exact hpounds hvalue hlifted, ?_, ?_⟩
  · have hforce : cl * (pounds / (psf * cl)) * psf = pounds := by field_simp
    rw [lift_exact harea hvalue, hforce]
  · intro hweight
    have hne : pounds / (psf * cl) ≠ 0 := div_ne_zero hweight hlifted
    constructor
    · have hcoefficient : pounds / (psf * (pounds / (psf * cl))) = cl := by field_simp
      rw [liftCoefficient_exact hpounds harea hvalue (mul_ne_zero hpsf hne), hcoefficient]
    · rw [wingLoading_exact hpounds harea hne, div_div_cancel₀ hweight]

/-- One hundred thousand pounds, given in grams, at ninety knots. -/
theorem lift_balances_weight_knots :
    ∃ area : Rat,
      wingAreaRequired units ⟨45359237, .gram⟩ ⟨90, .knot⟩ (6 / 5) = .ok ⟨area, .squareFoot⟩ ∧
      lift units (6 / 5) ⟨area, .squareFoot⟩ ⟨90, .knot⟩ = .ok ⟨100000, .poundForce⟩ ∧
      liftCoefficient units ⟨45359237, .gram⟩ ⟨90, .knot⟩ ⟨area, .squareFoot⟩ = .ok (6 / 5) := by
  obtain ⟨pounds, psf, hpounds, -, hvelocity, hbalance⟩ :=
    lift_balances_weight (w := ⟨45359237, .gram⟩) (p := ⟨90, .knot⟩) rfl (.inr rfl)
  have hweight : Quantity.convert units ⟨(45359237 : Rat), .gram⟩ .pound =
      .ok ⟨100000, .pound⟩ := by decide +kernel
  have hpressure : dynamicPressure units ⟨(90 : Rat), .knot⟩ seaLevel =
      .ok ⟨2663424 / 100000, .poundPerSquareFoot⟩ := by decide +kernel
  obtain ⟨rfl, -⟩ := Quantity.mk.inj (Except.ok.inj (hweight.symm.trans hpounds))
  obtain ⟨rfl, -⟩ := Quantity.mk.inj (Except.ok.inj (hpressure.symm.trans (hvelocity rfl)))
  obtain ⟨area, harea, hlift, hcoefficient⟩ := hbalance (by norm_num) (6 / 5) (by norm_num)
  exact ⟨area, harea, hlift, (hcoefficient (by norm_num)).1⟩

end FlightUnits.Flight
