import FlightUnits.Proofs.DecimalRounding
import FlightUnits.Proofs.ExactUnits

/-!
# Chains of conversions

A quantity converted to one unit after another, in exact arithmetic with the standard units. The
chain succeeds exactly when every unit has the dimension of the first quantity. Each step that
changes the unit rounds once, so its error is half a step of the decimal grid of the unit it enters;
carried over to the last unit of the chain it is rescaled by the slopes of the two units, and the
errors of all steps add up.
-/

namespace FlightUnits

open Standard

section Chains

variable {α : Type} [Scalar α]

/-- A quantity converted to each unit of a list in turn. -/
def Quantity.convertAll (t : UnitTable α) (q : Quantity α) (us : List MeasureUnit) :
    Except (Fault α) (Quantity α) :=
  us.foldlM (fun p u => p.convert t u) q

/-- The value of a quantity in a unit, without rounding. -/
def Quantity.valueIn (t : UnitTable α) (q : Quantity α) (u : MeasureUnit) :
    Except (Fault α) α := do
  let source ← t.lookup q.unit ""
  let goal ← t.lookup u ""
  let base ← source.conversion.toBase q.value
  let value ← goal.conversion.fromBase base
  return value

/-- The units that the steps of a chain starting in `u` enter from another unit. -/
def enteredUnits (u : MeasureUnit) : List MeasureUnit → List MeasureUnit
  | [] => []
  | v :: vs => if v = u then enteredUnits u vs else v :: enteredUnits v vs

lemma convertAll_cons (t : UnitTable α) (q : Quantity α) (u : MeasureUnit)
    (us : List MeasureUnit) :
    q.convertAll t (u :: us) = (do let p ← q.convert t u; p.convertAll t us) := rfl

lemma convertAll_append (t : UnitTable α) (q : Quantity α) (us vs : List MeasureUnit) :
    q.convertAll t (us ++ vs) = (do let p ← q.convertAll t us; p.convertAll t vs) :=
  List.foldlM_append

/-- A finished chain is in its last unit, and all its units have the first dimension. -/
lemma convertAll_eq_ok {q r : Quantity α} {us : List MeasureUnit}
    (h : q.convertAll units us = .ok r) :
    r.unit = us.getLastD q.unit ∧ ∀ u ∈ us, dimension u = dimension q.unit := by
  induction us generalizing q with
  | nil => exact ⟨Except.ok.inj h ▸ rfl, nofun⟩
  | cons u us ih =>
    rw [convertAll_cons] at h
    obtain ⟨p, hp, hrest⟩ := bind_eq_ok_iff.mp h
    obtain ⟨rfl, hd⟩ := convert_eq_ok hp
    obtain ⟨hr, hus⟩ := ih hrest
    refine ⟨by rw [hr, List.getLastD_cons], ?_⟩
    rw [List.forall_mem_cons]
    exact ⟨hd.symm, fun v hv => (hus v hv).trans hd.symm⟩

end Chains

section Exact

variable {q r : Quantity Rat} {u : MeasureUnit} {us : List MeasureUnit}

lemma valueIn_units (q : Quantity Rat) (u : MeasureUnit) :
    q.valueIn units u = .ok (fromBase u (toBase q.unit q.value)) := by
  simp [Quantity.valueIn]

lemma exists_convert (h : dimension u = dimension q.unit) : ∃ p, q.convert units u = .ok p := by
  by_cases hu : u = q.unit
  · subst hu
    exact ⟨q, convert_self q⟩
  · exact ⟨_, convert_exact h.symm hu⟩

lemma exists_convertAll (h : ∀ u ∈ us, dimension u = dimension q.unit) :
    ∃ r, q.convertAll units us = .ok r := by
  induction us generalizing q with
  | nil => exact ⟨q, rfl⟩
  | cons u us ih =>
    rw [List.forall_mem_cons] at h
    obtain ⟨p, hp⟩ := exists_convert h.1
    obtain ⟨rfl, hd⟩ := convert_eq_ok hp
    obtain ⟨r, hr⟩ := ih fun v hv => (h.2 v hv).trans hd
    exact ⟨r, by rw [convertAll_cons, hp, ok_bind, hr]⟩

/-- The step that first leaves the dimension fails, and the chain with it. -/
lemma convertAll_of_ne (vs : List MeasureUnit) (h : ∀ v ∈ us, dimension v = dimension q.unit)
    (hne : dimension u ≠ dimension q.unit) :
    ∃ p, q.convertAll units us = .ok p ∧ p.convert units u = .error (mismatch p.unit u) ∧
      q.convertAll units (us ++ u :: vs) = .error (mismatch p.unit u) := by
  obtain ⟨p, hp⟩ := exists_convertAll h
  obtain ⟨hunit, -⟩ := convertAll_eq_ok hp
  have hd : dimension p.unit = dimension q.unit := by
    rw [hunit, List.getLastD_eq_getLast?]
    cases hlast : us.getLast? with
    | none => rfl
    | some v => exact h v (List.mem_of_getLast? hlast)
  have hconvert : p.convert units u = .error (mismatch p.unit u) :=
    convert_of_ne (hd.trans_ne hne.symm)
  refine ⟨p, hp, hconvert, ?_⟩
  rw [convertAll_append, hp, ok_bind, convertAll_cons, hconvert, error_bind]

/-- Values that differ in a unit differ in another by as much, rescaled by the slopes. -/
lemma fromBase_sub_fromBase (u v : MeasureUnit) (x y : Rat) :
    fromBase v (toBase u x) - fromBase v (toBase u y) = slope u / slope v * (x - y) := by
  simp only [fromBase, toBase]
  field_simp
  ring

/-- The most that rounding in the given units adds to the error of a value in the unit `v`. -/
def roundingError (v : MeasureUnit) (us : List MeasureUnit) : Rat :=
  (us.map fun u => 1 / 2 / 10 ^ 14 * slope u / slope v).sum

/-- Rounding a value in the unit `u` shifts it in the unit `v` by half a step of the grid at most. -/
lemma abs_fromBase_roundRat_sub_le (u v : MeasureUnit) (x : Rat) :
    |fromBase v (toBase u (Scalar.roundRat convertedPlaces x)) - fromBase v (toBase u x)| ≤
      1 / 2 / 10 ^ 14 * slope u / slope v := by
  have hround := Scalar.abs_roundRat_sub_le convertedPlaces x
  have hscale : 0 < slope u / slope v := div_pos (slope_pos u) (slope_pos v)
  rw [fromBase_sub_fromBase, abs_mul, abs_of_pos hscale, mul_div_assoc, mul_comm (1 / 2 / 10 ^ 14)]
  exact mul_le_mul_of_nonneg_left hround hscale.le

/-- The value of a chain is off the exact one by the rounding of the steps that change the unit. -/
lemma abs_convertAll_sub_le (h : q.convertAll units us = .ok r) :
    |r.value - fromBase r.unit (toBase q.unit q.value)| ≤
      roundingError r.unit (enteredUnits q.unit us) := by
  induction us generalizing q with
  | nil =>
    obtain rfl := Except.ok.inj h
    simp [enteredUnits, roundingError]
  | cons u us ih =>
    rw [convertAll_cons] at h
    obtain ⟨p, hp, hrest⟩ := bind_eq_ok_iff.mp h
    by_cases hu : u = q.unit
    · subst hu
      obtain rfl := Except.ok.inj ((convert_self q).symm.trans hp)
      rw [enteredUnits, if_pos rfl]
      exact ih hrest
    · obtain ⟨-, hd⟩ := convert_eq_ok hp
      rw [convert_exact hd hu] at hp
      obtain rfl := Except.ok.inj hp
      rw [enteredUnits, if_neg hu, roundingError, List.map_cons, List.sum_cons, add_comm]
      have hrounded := abs_fromBase_roundRat_sub_le u r.unit (fromBase u (toBase q.unit q.value))
      rw [toBase_fromBase] at hrounded
      -- the steps that follow start from the rounded value
      have htail := ih hrest
      calc |r.value - fromBase r.unit (toBase q.unit q.value)|
          ≤ |r.value - fromBase r.unit (toBase u
                (Scalar.roundRat convertedPlaces (fromBase u (toBase q.unit q.value))))| +
              |fromBase r.unit (toBase u
                (Scalar.roundRat convertedPlaces (fromBase u (toBase q.unit q.value)))) -
                fromBase r.unit (toBase q.unit q.value)| := abs_sub_le _ _ _
        _ ≤ _ := add_le_add htail hrounded

/-- A chain that never changes the unit gives the quantity itself. -/
lemma convertAll_of_enteredUnits (h : enteredUnits q.unit us = []) :
    q.convertAll units us = .ok q := by
  induction us with
  | nil => rfl
  | cons u us ih =>
    rw [enteredUnits] at h
    split at h
    next hu => rw [convertAll_cons, hu, convert_self, ok_bind, ih h]
    next => exact absurd h (List.cons_ne_nil _ _)

/--
Chains of conversions. A chain succeeds when all its units have the dimension of the quantity, and
otherwise fails at the first that has not. Its result is in the last unit and off the exact value
by half a step of the decimal grid for each step that changes the unit, rescaled to the last unit;
without such a step it is the quantity itself.
-/
theorem convertAll_standard (q : Quantity Rat) (us : List MeasureUnit) :
    ((∃ r, q.convertAll units us = .ok r) ↔ ∀ u ∈ us, dimension u = dimension q.unit) ∧
    ((¬ ∀ u ∈ us, dimension u = dimension q.unit) →
      ∃ vs u ws p, us = vs ++ u :: ws ∧ (∀ v ∈ vs, dimension v = dimension q.unit) ∧
        dimension u ≠ dimension q.unit ∧ q.convertAll units vs = .ok p ∧
        p.convert units u = .error (mismatch p.unit u) ∧
        q.convertAll units us = .error (mismatch p.unit u)) ∧
    (∀ r, q.convertAll units us = .ok r →
      r.unit = us.getLastD q.unit ∧
      (∃ x, q.valueIn units r.unit = .ok x ∧
        |r.value - x| ≤ roundingError r.unit (enteredUnits q.unit us)) ∧
      (enteredUnits q.unit us = [] → r = q)) := by
  refine ⟨⟨?_, exists_convertAll⟩, fun hus => ?_, fun r hr => ⟨(convertAll_eq_ok hr).1, ?_, ?_⟩⟩
  · rintro ⟨r, hr⟩
    exact (convertAll_eq_ok hr).2
  · push Not at hus
    obtain ⟨w, hw, hwd⟩ := hus
    have hsome : (us.find? fun u => dimension u != dimension q.unit).isSome := by
      rw [List.find?_isSome]
      exact ⟨w, hw, bne_iff_ne.mpr hwd⟩
    obtain ⟨u, hu⟩ := Option.isSome_iff_exists.mp hsome
    obtain ⟨hne, vs, ws, rfl, hvs⟩ := List.find?_eq_some_iff_append.mp hu
    have hvs' : ∀ v ∈ vs, dimension v = dimension q.unit := fun v hv => by simpa using hvs v hv
    obtain ⟨p, hp⟩ := convertAll_of_ne ws hvs' (bne_iff_ne.mp hne)
    exact ⟨vs, u, ws, p, rfl, hvs', bne_iff_ne.mp hne, hp⟩
  · exact ⟨_, valueIn_units q r.unit, abs_convertAll_sub_le hr⟩
  · intro h
    rw [convertAll_of_enteredUnits h] at hr
    exact (Except.ok.inj hr).symm

/-- A knot converted forth and back, and a chain that leaves the velocities. -/
theorem convertAll_standard_knot :
    (∃ r, Quantity.convertAll units ⟨(1 : Rat), .knot⟩ [.milePerHour, .milePerHour, .knot] = .ok r ∧
      r.unit = .knot ∧ |r.value - 1| ≤ 1 / 2 / 10 ^ 14 * (96 / 51)) ∧
    (∃ u v, Quantity.convertAll units ⟨(1 : Rat), .knot⟩ [.milePerHour, .second, .knot] =
      .error (mismatch u v)) ∧
    ∀ r, Quantity.convertAll units ⟨(1 / 3 : Rat), .knot⟩ [.knot] = .ok r → r = ⟨1 / 3, .knot⟩ := by
  refine ⟨?_, ?_, fun r hr => ?_⟩
  · obtain ⟨hok, -, hresult⟩ :=
      convertAll_standard ⟨1, .knot⟩ [.milePerHour, .milePerHour, .knot]
    obtain ⟨r, hr⟩ := hok.mpr (by decide)
    obtain ⟨hunit, ⟨x, hx, hbound⟩, -⟩ := hresult r hr
    have hone : Quantity.valueIn units ⟨1, .knot⟩ .knot = .ok (1 : Rat) := by decide +kernel
    have herror : roundingError .knot [.milePerHour, .knot] = 1 / 2 / 10 ^ 14 * (96 / 51) := by
      decide +kernel
    rw [hunit] at hx hbound
    obtain rfl := Except.ok.inj (hone.symm.trans hx)
    exact ⟨r, hr, hunit, herror ▸ hbound⟩
  · obtain ⟨vs, u, ws, p, -, -, -, -, -, h⟩ :=
      (convertAll_standard ⟨1, .knot⟩ [.milePerHour, .second, .knot]).2.1 (by decide)
    exact ⟨_, _, h⟩
  · exact ((convertAll_standard ⟨1 / 3, .knot⟩ [.knot]).2.2 r hr).2.2 rfl

end Exact

end FlightUnits
