import FlightUnits.Proofs.CalculationTree
import FlightUnits.Proofs.Magnitudes
import FlightUnits.Proofs.PlainMessages

/-!
# Faults of answers

What can go wrong in the four answers to requests. Requests hold doubles, for which every step of a
formula has a result unless it divides by zero or takes the root of a number below zero, and tables
and units are those of the standard tables. So each answer fails in a few ways only. These ways are
the ones that are reported to whoever asked, and none of their messages holds a surrogate code.
-/

namespace FlightUnits

open Standard

namespace Fault

lemma isAnswerable_mismatch {reported : FaultKind → Bool} (h : reported .dimensionMismatch)
    (u v : MeasureUnit) : IsAnswerable reported (mismatch u v) := ⟨h, isPlain_mismatch u v⟩

lemma isAnswerable_outsideRange (x first last : Number) :
    IsAnswerable FaultKind.isValueFault (.outsideRange x first last) :=
  ⟨rfl, isPlain_outsideRange x first last⟩

lemma isAnswerable_arithmetic {g : ArithmeticFault} (h : g.kind.isCalculationFault) :
    IsAnswerable FaultKind.isCalculationFault (.arithmetic g) := ⟨h, isPlain_arithmetic g⟩

lemma OfCalculation.isAnswerable {f : Fault Number} (h : f.OfCalculation) :
    f.IsAnswerable FaultKind.isCalculationFault := by
  cases h with
  | mixed symbol a b => exact ⟨rfl, isPlain_mixed symbol a b⟩
  | mismatch u v => exact ⟨rfl, isPlain_mismatch u v⟩
  | unresolved symbol a b found => exact ⟨rfl, isPlain_unresolved symbol a b found⟩
  | zeroDivision whole => exact ⟨rfl, isPlain_arithmetic _⟩

end Fault

/-! ### Conversions -/

lemma Quantity.map_nearest (q : Quantity Binary64) : (q.map Number.real).map Number.nearest = q :=
  rfl

lemma endsAnswerable_convert {reported : FaultKind → Bool} (h : reported .dimensionMismatch)
    (q : Quantity Binary64) (u : MeasureUnit) :
    Ends (fun r => dimension q.unit = dimension u ∧ r = (q.inUnit u).map Number.real)
      (Fault.IsAnswerable reported) ((q.map Number.real).convert units u) :=
  (ends_convert_real q u).mono (fun _ hr => hr) fun _ hf =>
    hf ▸ Fault.isAnswerable_mismatch h q.unit u

lemma Quantity.unit_inUnit (q : Quantity Binary64) (u : MeasureUnit) : (q.inUnit u).unit = u := by
  rw [inUnit]
  split
  · next h => exact h.symm
  · rfl

lemma endsAnswerable_convertQuantity (request : ConvertRequest) :
    Ends (fun r => dimension request.quantity.unit = dimension request.target ∧
        r = ⟨request.quantity, request.quantity.inUnit request.target, dimension request.target⟩)
      (Fault.IsAnswerable FaultKind.isUnitFault) (convertQuantity units request) := by
  refine (endsAnswerable_convert rfl request.quantity request.target).bind fun r hr => ?_
  obtain ⟨hdimension, rfl⟩ := hr
  have hunit := request.quantity.unit_inUnit request.target
  have htarget : ((request.quantity.inUnit request.target).map Number.real).dimension units =
      .ok (dimension request.target) := by
    rw [dimension_quantity, Quantity.map, hunit]
  rw [htarget, ok_bind]
  exact .ok ⟨hdimension, rfl⟩

/-! ### Calculations -/

lemma endsAnswerable_calculate (request : CalculationRequest) :
    Ends (fun r => r.result.value.isFinite) (Fault.IsAnswerable FaultKind.isCalculationFault)
      (calculate machineTables request) := by
  rcases h : calculate machineTables request with f | r
  · rcases CalculationRequest.calculate_eq_error_iff.mp h with hf | ⟨x, -, -, rfl⟩
    · exact .error (request.endsDouble_evaluate.of_eq_error hf).isAnswerable
    · exact .error ⟨rfl, Fault.isPlain_nonFinite _ _⟩
  · obtain ⟨x, -, hfinite, htells⟩ := CalculationRequest.calculate_eq_ok_iff.mp h
    obtain rfl := htells.result_eq
    rw [CalculationRequest.isFinite_map] at hfinite
    exact .ok hfinite

/-! ### Formulae -/

namespace Flight

open Number

/-- Neighbouring samples of the density ratio: whole altitudes, and ratios of at most one. -/
inductive IsSegment : (Number × Number) × (Number × Number) → Prop where
  | mk {m n : Int} {a b : Binary64} (hm : 0 ≤ m) (hlt : m < n) (hn : n ≤ 2 ^ 15)
    (ha : a.AtMost 0) (hb : b.AtMost 0) : IsSegment ((int m, real a), (int n, real b))

lemma isSegment_densityRatioTable :
    ∀ s ∈ densityRatioTable.zip densityRatioTable.tail, IsSegment s := by
  iterate 4
    refine List.forall_mem_cons.mpr ⟨.mk (by decide) (by decide) (by decide) (by decide +kernel)
      (by decide +kernel), ?_⟩
  exact fun s h => absurd h List.not_mem_nil

/-- A density ratio that is read from the table; the bound is a wide one. -/
def IsRatio (z : Number) : Prop := ∃ y : Binary64, y.AtMost 18 ∧ z = real y

lemma exists_onLine_eq_ok {x : Binary64} {p q : Number × Number} (h : IsSegment (p, q))
    (hlow : Scalar.le p.1 (real x)) (hhigh : Scalar.le (real x) q.1) :
    ∃ z, IsRatio z ∧ onLine (real x) p q = .ok z := by
  cases h with
  | @mk m n a b hm hlt hn ha hb =>
    have hx : x.AtMost 15 := Binary64.atMost_of_le hm hn hlow hhigh
    have hstart : (Binary64.ofInt m).AtMost 15 := Binary64.atMost_ofInt (by decide) (by omega)
    have hspread : (Binary64.ofInt (n - m)).AtMost 15 :=
      Binary64.atMost_ofInt (by decide) (by omega)
    have hwidth := Binary64.atLeast_ofInt (by omega) hspread.isFinite
    have halong := (hx.add hstart.neg (by decide)).div hwidth (by decide)
    have hchange := halong.mul (hb.add ha.neg (by decide)) (by decide)
    have hspan : Scalar.sub (int n) (int m) = .ok (int (n - m)) := rfl
    rw [onLine, sub_of_toBinary64 x (toBinary64_int hstart.isFinite), ok_bind, hspan, ok_bind,
      div_of_toBinary64 _ (toBinary64_int hwidth.isFinite) hwidth.not_isZero, ok_bind, sub_real,
      ok_bind, mul_real, ok_bind, add_real]
    exact ⟨_, ⟨_, (ha.mono (by decide)).add hchange (by decide), rfl⟩, rfl⟩

/-- Between samples the density ratio is a double. -/
lemma ends_interpolate (x : Binary64) :
    Ends IsRatio (fun f => ∃ first last, f = .outsideRange (real x) first last)
      (interpolate (real x) densityRatioTable) := by
  have hpairs : (densityRatioTable : List (Number × Number)) =
      densityRatioTable.head (by decide) :: densityRatioTable.tail.head (by decide) ::
        densityRatioTable.tail.tail := rfl
  rw [hpairs, interpolate, ← hpairs]
  split
  · next p q h =>
    obtain ⟨hmem, hlow, hhigh⟩ := of_enclosing? h
    obtain ⟨z, hratio, hz⟩ := exists_onLine_eq_ok (isSegment_densityRatioTable _ hmem) hlow hhigh
    rw [hz]
    exact .ok hratio
  · exact .error ⟨_, _, rfl⟩

lemma endsAnswerable_densityRatio (altitude : Quantity Binary64) :
    Ends IsRatio (Fault.IsAnswerable FaultKind.isValueFault)
      (densityRatio units (altitude.map real)) := by
  refine (endsAnswerable_convert rfl altitude .foot).bind fun feet hfeet => ?_
  obtain ⟨-, rfl⟩ := hfeet
  refine (ends_interpolate _).mono (fun _ h => h) ?_
  rintro f ⟨first, last, rfl⟩
  exact Fault.isAnswerable_outsideRange _ first last

lemma densityRatio_seaLevel :
    densityRatio units (seaLevel : Quantity Number) = .ok (real (.ofInt 1)) :=
  eq_ok_of_toOption (by decide +kernel)

/-- The factor of the squared velocity in a dynamic pressure. -/
def pressureFactor : Binary64 := (0.00256 : Literal).stored.nearest

/-- The dynamic pressure in psf at a velocity and a density ratio. -/
def pressureAt (velocity : Quantity Binary64) (ratio : Binary64) : Quantity Binary64 :=
  let mph := (velocity.inUnit .milePerHour).value
  ⟨((pressureFactor.mul mph).mul mph).mul ratio, .poundPerSquareFoot⟩

lemma endsAnswerable_dynamicPressure (velocity : Quantity Binary64)
    {altitude : Quantity Number} (haltitude : Ends IsRatio
      (Fault.IsAnswerable FaultKind.isValueFault) (densityRatio units altitude)) :
    Ends (fun q => ∃ ratio : Binary64, ratio.AtMost 18 ∧ q = (pressureAt velocity ratio).map real)
      (Fault.IsAnswerable FaultKind.isValueFault)
      (dynamicPressure units (velocity.map real) altitude) := by
  have hspeed : Ends (fun z => z = real
        ((pressureFactor.mul (velocity.inUnit .milePerHour).value).mul
          (velocity.inUnit .milePerHour).value))
      (Fault.IsAnswerable FaultKind.isValueFault) (speedFactor units (velocity.map real)) := by
    refine (endsAnswerable_convert rfl velocity .milePerHour).bind fun mph hmph => ?_
    obtain ⟨-, rfl⟩ := hmph
    exact .ok rfl
  refine hspeed.bind fun speed hspeed => haltitude.bind fun ratio hratio => ?_
  obtain rfl := hspeed
  obtain ⟨ratio, hbound, rfl⟩ := hratio
  rw [mul_real, liftM_ok, ok_bind, pure_eq_ok]
  refine .ok ⟨ratio, hbound, ?_⟩
  simp only [pressureAt, Quantity.map]

/-- The ratio `W / S / Cl`, in pounds and square feet, whose root a stall speed takes. -/
def liftRatioAt (grossWeight wingArea : Quantity Binary64) (clMax : Binary64) : Binary64 :=
  ((grossWeight.inUnit .pound).value.div (wingArea.inUnit .squareFoot).value).div clMax

/-- The stall speed in mph. -/
def stallSpeedAt (grossWeight wingArea : Quantity Binary64) (clMax : Binary64) :
    Quantity Binary64 :=
  ⟨(Binary64.ofInt 20).mul (liftRatioAt grossWeight wingArea clMax).sqrt, .milePerHour⟩

/-- What a stall speed needs: an area that is not zero, and no ratio below zero. -/
structure IsFlyable (grossWeight wingArea : Quantity Binary64) (clMax : Binary64) : Prop where
  area : ¬ (wingArea.inUnit .squareFoot).value.isZero
  ratio : (liftRatioAt grossWeight wingArea clMax).sqrt.isNaN →
    (liftRatioAt grossWeight wingArea clMax).isNaN

lemma ends_div (x y : Binary64) :
    Ends (fun z => ¬ y.isZero ∧ z = real (x.div y))
      (Fault.IsAnswerable FaultKind.isCalculationFault)
      (liftM (Scalar.div (real x) (real y)) : Except (Fault Number) Number) := by
  refine Ends.liftM (p := fun g => g.kind.isCalculationFault) ?_ fun _ =>
    Fault.isAnswerable_arithmetic
  rw [div_real]
  split
  · exact .error rfl
  · next h => exact .ok ⟨h, rfl⟩

lemma ends_sqrt (x : Binary64) :
    Ends (fun z => (x.sqrt.isNaN → x.isNaN) ∧ z = real x.sqrt)
      (Fault.IsAnswerable FaultKind.isCalculationFault)
      (liftM (SquareRoot.sqrt (real x)) : Except (Fault Number) Number) := by
  refine Ends.liftM (p := fun g => g.kind.isCalculationFault) ?_ fun _ =>
    Fault.isAnswerable_arithmetic
  have hsqrt : SquareRoot.sqrt (real x) =
      if x.sqrt.isNaN && !x.isNaN then .error .negativeRoot else .ok (real x.sqrt) := rfl
  rw [hsqrt]
  split
  · exact .error rfl
  · next h =>
    refine .ok ⟨fun hroot => ?_, rfl⟩
    rw [hroot, Bool.true_and, Bool.not_eq_true', Bool.not_eq_false] at h
    exact h

lemma endsAnswerable_stallSpeed (grossWeight wingArea : Quantity Binary64) (clMax : Binary64) :
    Ends (fun q => IsFlyable grossWeight wingArea clMax ∧
        q = (stallSpeedAt grossWeight wingArea clMax).map real)
      (Fault.IsAnswerable FaultKind.isCalculationFault)
      (stallSpeed units (grossWeight.map real) (wingArea.map real) (real clMax)) := by
  refine (endsAnswerable_convert rfl grossWeight .pound).bind fun pounds hpounds => ?_
  refine (endsAnswerable_convert rfl wingArea .squareFoot).bind fun area harea => ?_
  obtain ⟨-, rfl⟩ := hpounds
  obtain ⟨-, rfl⟩ := harea
  refine (ends_div _ _).bind fun loading hloading => ?_
  obtain ⟨harea, rfl⟩ := hloading
  refine (ends_div _ _).bind fun ratio hratio => ?_
  obtain ⟨-, rfl⟩ := hratio
  refine (ends_sqrt _).bind fun root hroot => ?_
  obtain ⟨hratio, rfl⟩ := hroot
  have htwenty : Number.toBinary64 (Scalar.ofLiteral 20) = .ok (Binary64.ofInt 20) :=
    toBinary64_int (Binary64.atMost_ofInt (k := 5) (by decide) (by decide)).isFinite
  rw [mul_of_toBinary64 _ htwenty, liftM_ok, ok_bind, pure_eq_ok]
  refine .ok ⟨⟨harea, hratio⟩, ?_⟩
  simp only [stallSpeedAt, liftRatioAt, Quantity.map]

end Flight

lemma endsAnswerable_answerPressure (request : DynamicPressureRequest) :
    Ends (fun q => ∃ ratio : Binary64, ratio.AtMost 18 ∧
        q = Flight.pressureAt request.velocity ratio)
      (Fault.IsAnswerable FaultKind.isValueFault) (answerPressure units request) := by
  have haltitude : Ends Flight.IsRatio (Fault.IsAnswerable FaultKind.isValueFault)
      (Flight.densityRatio units
        ((request.altitude.map (Quantity.map Number.real)).getD Flight.seaLevel)) := by
    cases request.altitude with
    | none =>
      rw [Option.map_none, Option.getD_none, Flight.densityRatio_seaLevel]
      exact .ok ⟨_, Binary64.atMost_ofInt (by decide) (by decide), rfl⟩
    | some altitude => exact Flight.endsAnswerable_densityRatio altitude
  refine (Flight.endsAnswerable_dynamicPressure request.velocity haltitude).bind fun q hq => ?_
  obtain ⟨ratio, hbound, rfl⟩ := hq
  rw [pure_eq_ok, Quantity.map_nearest]
  exact .ok ⟨ratio, hbound, rfl⟩

lemma endsAnswerable_answerStallSpeed (request : StallSpeedRequest) :
    Ends (fun q => Flight.IsFlyable request.grossWeight request.wingArea request.clMax ∧
        q = Flight.stallSpeedAt request.grossWeight request.wingArea request.clMax)
      (Fault.IsAnswerable FaultKind.isCalculationFault) (answerStallSpeed units request) := by
  refine (Flight.endsAnswerable_stallSpeed request.grossWeight request.wingArea
    request.clMax).bind fun q hq => ?_
  obtain ⟨hflyable, rfl⟩ := hq
  rw [pure_eq_ok, Quantity.map_nearest]
  exact .ok ⟨hflyable, rfl⟩

end FlightUnits
