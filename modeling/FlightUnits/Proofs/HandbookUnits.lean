import FlightUnits.Proofs.StandardArithmetic
import FlightUnits.Proofs.TableCheck
import FlightUnits.Script.Formula
import Mathlib.Logic.Basic

/-!
# Arguments in the units of the handbook

Every formula converts its arguments to the units of the handbook first, and a conversion to the
unit that a quantity has already hands it on without rounding. So a formula comes to the same,
result or failure, when an argument is given to it in the unit of the handbook. Likewise a velocity
that stands for a pressure may be given as its dynamic pressure at sea level.

A formula looks at an argument through one function only: a conversion, or the pressure value. The
lemmas say so of the formulae on quantities and then of those on values of any kind.
-/

namespace FlightUnits

/-! ### Converting twice -/

section Conversions

variable {α : Type} [Scalar α] {t : UnitTable α} {q r : Quantity α} {u : MeasureUnit}

lemma exists_of_convert (h : q.convert t u = .ok r) :
    ∃ source goal, t.find? q.unit = some source ∧ t.find? u = some goal ∧
      source.dimension = goal.dimension ∧ r.unit = u := by
  unfold Quantity.convert at h
  obtain ⟨source, hsource, h⟩ := bind_eq_ok_iff.mp h
  obtain ⟨goal, hgoal, h⟩ := bind_eq_ok_iff.mp h
  refine ⟨source, goal, lookup_eq_ok_iff.mp hsource, lookup_eq_ok_iff.mp hgoal, ?_⟩
  split at h
  next => cases h
  next hd =>
    refine ⟨not_not.mp hd, ?_⟩
    split at h
    next hu =>
      obtain rfl := Except.ok.inj h
      exact hu.symm
    next =>
      obtain ⟨base, -, h⟩ := bind_eq_ok_iff.mp h
      obtain ⟨value, -, h⟩ := bind_eq_ok_iff.mp h
      obtain rfl := Except.ok.inj h
      rfl

lemma convert_of_find? {entry : Descriptor α} (h : t.find? q.unit = some entry) :
    q.convert t q.unit = .ok q := by
  have hlookup (role : String) : t.lookup q.unit role = .ok entry := lookup_eq_ok_iff.mpr h
  simp [Quantity.convert, hlookup]

/-- A converted quantity is handed on as it is when it is converted to the same unit again. -/
lemma convert_convert (h : q.convert t u = .ok r) : r.convert t u = .ok r := by
  obtain ⟨-, goal, -, hgoal, -, rfl⟩ := exists_of_convert h
  exact convert_of_find? hgoal

lemma dimension_of_convert (h : q.convert t u = .ok r) : r.dimension t = q.dimension t := by
  obtain ⟨source, goal, hsource, hgoal, hd, rfl⟩ := exists_of_convert h
  have hq : t.lookup q.unit "" = .ok source := lookup_eq_ok_iff.mpr hsource
  have hr : t.lookup r.unit "" = .ok goal := lookup_eq_ok_iff.mpr hgoal
  rw [Quantity.dimension, Quantity.dimension, hq, hr, Except.map, Except.map, hd]

end Conversions

/-! ### Formulae on quantities -/

namespace Flight

open Standard

/-- How a formula reads an argument: in one unit, or in one that depends on the dimension. -/
inductive Reading where
  | always (u : MeasureUnit)
  | pressureOrVelocity
  | chordOrArea

/-- The unit in which an argument of a dimension is read. -/
def Reading.unit : Reading → Dimension → MeasureUnit
  | always u, _ => u
  | pressureOrVelocity, d => if d = .velocity then .milePerHour else .poundPerSquareFoot
  | chordOrArea, d => if d = .length then .foot else .squareFoot

section Formulae

variable {α : Type} [Scalar α] {t : UnitTable α} {reading : Reading} {q r : Quantity α}

/-- A quantity as a formula may be given it: as it is, or converted to the unit it is read in. -/
inductive Restates (t : UnitTable α) (reading : Reading) (q : Quantity α) : Quantity α → Prop where
  | same : Restates t reading q q
  | converted {r : Quantity α} {d : Dimension} (hd : q.dimension t = .ok d)
      (h : q.convert t (reading.unit d) = .ok r) : Restates t reading q r

lemma Restates.dimension_eq (h : Restates t reading q r) : r.dimension t = q.dimension t := by
  cases h with
  | same => rfl
  | converted hd h => exact dimension_of_convert h

lemma Restates.convert_eq {u : MeasureUnit} (h : Restates t reading q r)
    (hu : ∀ d, q.dimension t = .ok d → reading.unit d = u) :
    r.convert t u = q.convert t u := by
  cases h with
  | same => rfl
  | converted hd h =>
    rw [hu _ hd] at h
    rw [convert_convert h, h]

lemma Restates.convert_unit {d : Dimension} (h : Restates t reading q r)
    (hd : q.dimension t = .ok d) :
    r.convert t (reading.unit d) = q.convert t (reading.unit d) := by
  apply h.convert_eq
  intro e he
  rw [Except.ok.inj (he.symm.trans hd)]

variable {altitude altitude' velocity velocity' pressure pressure' : Quantity α}
  {weight weight' area area' span span' chord chord' : Quantity α} {cl : α}

lemma densityRatio_congr (h : altitude'.convert t .foot = altitude.convert t .foot) :
    densityRatio t altitude' = densityRatio t altitude := by
  unfold densityRatio
  rw [h]

lemma speedFactor_congr (h : velocity'.convert t .milePerHour = velocity.convert t .milePerHour) :
    speedFactor t velocity' = speedFactor t velocity := by
  unfold speedFactor
  rw [h]

lemma dynamicPressure_congr
    (hv : velocity'.convert t .milePerHour = velocity.convert t .milePerHour)
    (ha : altitude'.convert t .foot = altitude.convert t .foot) :
    dynamicPressure t velocity' altitude' = dynamicPressure t velocity altitude := by
  unfold dynamicPressure
  rw [speedFactor_congr hv, densityRatio_congr ha]

lemma reynoldsNumber_congr (hc : chord'.convert t .inch = chord.convert t .inch)
    (hv : velocity'.convert t .milePerHour = velocity.convert t .milePerHour) :
    reynoldsNumber t chord' velocity' = reynoldsNumber t chord velocity := by
  unfold reynoldsNumber
  rw [hc, hv]

lemma stallSpeed_congr [SquareRoot α] (hw : weight'.convert t .pound = weight.convert t .pound)
    (hs : area'.convert t .squareFoot = area.convert t .squareFoot) :
    stallSpeed t weight' area' cl = stallSpeed t weight area cl := by
  unfold stallSpeed
  rw [hw, hs]

lemma wingAreaRequired_congr (hw : weight'.convert t .pound = weight.convert t .pound)
    (hp : pressureValue t pressure' = pressureValue t pressure) :
    wingAreaRequired t weight' pressure' cl = wingAreaRequired t weight pressure cl := by
  unfold wingAreaRequired
  rw [hw, hp]

lemma liftCoefficient_congr (hw : weight'.convert t .pound = weight.convert t .pound)
    (hp : pressureValue t pressure' = pressureValue t pressure)
    (hs : area'.convert t .squareFoot = area.convert t .squareFoot) :
    liftCoefficient t weight' pressure' area' = liftCoefficient t weight pressure area := by
  unfold liftCoefficient
  rw [hw, hp, hs]

lemma lift_congr (hs : area'.convert t .squareFoot = area.convert t .squareFoot)
    (hp : pressureValue t pressure' = pressureValue t pressure) :
    lift t cl area' pressure' = lift t cl area pressure := by
  unfold lift
  rw [hs, hp]

lemma wingSpan_congr (hs : area'.convert t .squareFoot = area.convert t .squareFoot)
    (hc : chord'.convert t .foot = chord.convert t .foot) :
    wingSpan t area' chord' = wingSpan t area chord := by
  unfold wingSpan
  rw [hs, hc]

lemma wingChord_congr (hs : area'.convert t .squareFoot = area.convert t .squareFoot)
    (hb : span'.convert t .foot = span.convert t .foot) :
    wingChord t area' span' = wingChord t area span := by
  unfold wingChord
  rw [hs, hb]

lemma wingLoading_congr (hw : weight'.convert t .pound = weight.convert t .pound)
    (hs : area'.convert t .squareFoot = area.convert t .squareFoot) :
    wingLoading t weight' area' = wingLoading t weight area := by
  unfold wingLoading
  rw [hw, hs]

lemma aspectRatio_congr (hb : span'.convert t .foot = span.convert t .foot) (second : Quantity α) :
    aspectRatio t span' second = aspectRatio t span second := by
  unfold aspectRatio
  rw [hb]

lemma pressureValue_of_restates (h : Restates t .pressureOrVelocity q r) :
    pressureValue t r = pressureValue t q := by
  unfold pressureValue
  rw [h.dimension_eq]
  cases hd : q.dimension t with
  | error f => rfl
  | ok d =>
    -- in the unit that its dimension asks for, the restated argument is the same
    have hunit := h.convert_unit hd
    rw [Reading.unit] at hunit
    rw [ok_bind, ok_bind]
    by_cases hv : d = .velocity
    · rw [if_pos hv] at hunit
      rw [if_pos hv, if_pos hv, dynamicPressure_congr hunit rfl]
    · rw [if_neg hv] at hunit
      rw [if_neg hv, if_neg hv, hunit]

lemma aspectRatio_of_restates (h : Restates t .chordOrArea q r) (span : Quantity α) :
    aspectRatio t span r = aspectRatio t span q := by
  unfold aspectRatio
  rw [h.dimension_eq]
  cases hd : q.dimension t with
  | error f => rfl
  | ok d =>
    have hunit := h.convert_unit hd
    rw [Reading.unit] at hunit
    simp only [ok_bind]
    by_cases hl : d = .length
    · rw [if_pos hl] at hunit
      simp only [if_pos hl, hunit]
    · rw [if_neg hl] at hunit
      simp only [if_neg hl, hunit]

/-! A velocity and the dynamic pressure that it comes to at sea level, with the standard units. -/

lemma exists_of_dynamicPressure (h : dynamicPressure t velocity altitude = .ok pressure) :
    (∃ mph, velocity.convert t .milePerHour = .ok mph) ∧ pressure.unit = .poundPerSquareFoot := by
  obtain ⟨speed, hspeed, h⟩ := bind_eq_ok_iff.mp h
  obtain ⟨ratio, -, h⟩ := bind_eq_ok_iff.mp h
  obtain ⟨psf, -, h⟩ := bind_eq_ok_iff.mp h
  obtain rfl := Except.ok.inj h
  obtain ⟨mph, hmph, -⟩ := bind_eq_ok_iff.mp hspeed
  exact ⟨⟨mph, hmph⟩, rfl⟩

lemma pressureValue_of_dynamicPressure
    (h : dynamicPressure units velocity seaLevel = .ok pressure) :
    pressureValue units velocity = .ok pressure.value ∧
      pressureValue units pressure = .ok pressure.value := by
  obtain ⟨⟨mph, hmph⟩, hunit⟩ := exists_of_dynamicPressure h
  have hvelocity : dimension velocity.unit = .velocity := (convert_eq_ok hmph).2
  have hpressure : dimension pressure.unit ≠ .velocity := by
    rw [hunit]
    decide
  have hself : pressure.convert units .poundPerSquareFoot = .ok pressure :=
    hunit ▸ convert_self pressure
  constructor
  · rw [pressureValue, dimension_quantity, ok_bind, if_pos hvelocity, h, ok_bind, pure_eq_ok]
  · rw [pressureValue, dimension_quantity, ok_bind, if_neg hpressure, hself, ok_bind, pure_eq_ok]

end Formulae

end Flight

/-! ### Formulae on values of any kind -/

namespace Script

open Standard

/-- Two values that are one and the same, or quantities with the relation `R`. -/
inductive SameUpTo (R : Quantity Number → Quantity Number → Prop) : Value → Value → Prop where
  | same (a : Value) : SameUpTo R a a
  | quantities {q r : Quantity Number} (h : R q r) : SameUpTo R (.quantity q) (.quantity r)

/-- Two values that are the same to whoever looks at quantities through a function only. -/
abbrev Alike {β : Type} (read : Quantity Number → β) : Value → Value → Prop :=
  SameUpTo fun q r => read r = read q

/-- Two values that are the same once they are converted to a unit. -/
abbrev AlikeIn (t : Tables Number) (u : MeasureUnit) : Value → Value → Prop :=
  Alike fun q => q.convert t.units u

/-- A value as a formula may be given it: a quantity may come in the unit that it is read in. -/
abbrev Restates (t : Tables Number) (reading : Flight.Reading) : Value → Value → Prop :=
  SameUpTo (Flight.Restates t.units reading)

section Values

variable {t : Tables Number} {u : MeasureUnit} {a a' b b' : Value} {β γ : Type}
  {read : Quantity Number → β}

lemma SameUpTo.alike {R : Quantity Number → Quantity Number → Prop} (h : SameUpTo R a b)
    (hR : ∀ q r, R q r → read r = read q) : Alike read a b := by
  cases h with
  | same => exact .same a
  | quantities h => exact .quantities (hR _ _ h)

lemma SameUpTo.alikeIn (h : Restates t (.always u) a b) : AlikeIn t u a b :=
  h.alike fun _ _ hqr => hqr.convert_eq fun _ _ => rfl

lemma SameUpTo.alike_pressureValue (h : Restates t .pressureOrVelocity a b) :
    Alike (Flight.pressureValue t.units) a b :=
  h.alike fun _ _ hqr => Flight.pressureValue_of_restates hqr

lemma bind_measured (h : Alike read a a') {f f' : Quantity Number → Except Failure γ}
    (hf : ∀ q r, read r = read q → f' r = f q) : (measured a' >>= f') = (measured a >>= f) := by
  cases h with
  | same => exact bind_congr fun q => hf q q rfl
  | quantities h => exact hf _ _ h

lemma bind_pair (ha : AlikeIn t u a a') (hb : Alike read b b')
    {f f' : Quantity Number × Quantity Number → Except Failure γ}
    (hf : ∀ p p' q q', p'.convert t.units u = p.convert t.units u → read q' = read q →
      f' (p', q') = f (p, q)) :
    (pair t u a' b' >>= f') = (pair t u a b >>= f) := by
  simp only [pair, bind_assoc, pure_bind]
  apply bind_measured ha
  intro p p' hp
  -- the first quantity is converted before the second is looked at
  rw [hp]
  refine bind_congr fun _ => ?_
  apply bind_measured hb
  intro q q' hq
  exact hf p p' q q' hp hq

end Values

section Formulae

variable {t : Tables Number} {altitude altitude' velocity velocity' pressure pressure' : Value}
  {weight weight' area area' span span' chord chord' second second' : Value}

lemma densityRatio_congr (h : AlikeIn t .foot altitude altitude') :
    densityRatio t altitude' = densityRatio t altitude := by
  apply bind_measured h
  intro p p' hp
  rw [Flight.densityRatio_congr hp]

lemma dynamicPressure_congr (hv : AlikeIn t .milePerHour velocity velocity')
    (ha : AlikeIn t .foot altitude altitude') :
    dynamicPressure t velocity' altitude' = dynamicPressure t velocity altitude := by
  apply bind_measured hv
  intro p p' hp
  rw [Flight.speedFactor_congr hp]
  refine bind_congr fun _ => ?_
  apply bind_measured ha
  intro q q' hq
  rw [Flight.dynamicPressure_congr hp hq]

lemma reynoldsNumber_congr (hc : AlikeIn t .inch chord chord')
    (hv : AlikeIn t .milePerHour velocity velocity') :
    reynoldsNumber t chord' velocity' = reynoldsNumber t chord velocity := by
  apply bind_pair hc hv
  intro p p' q q' hp hq
  dsimp only
  rw [Flight.reynoldsNumber_congr hp hq]

lemma stallSpeed_congr (hw : AlikeIn t .pound weight weight')
    (hs : AlikeIn t .squareFoot area area') (cl : Value) :
    stallSpeed t weight' area' cl = stallSpeed t weight area cl := by
  apply bind_pair hw hs
  intro p p' q q' hp hq
  dsimp only
  cases cl.asNumber? with
  | some x => dsimp only; rw [Flight.stallSpeed_congr hp hq]
  | none => dsimp only; rw [Flight.wingLoading_congr hp hq]

lemma wingAreaRequired_congr (hw : AlikeIn t .pound weight weight')
    (hp : Alike (Flight.pressureValue t.units) pressure pressure') (cl : Value) :
    wingAreaRequired t weight' pressure' cl = wingAreaRequired t weight pressure cl := by
  apply bind_pair hw hp
  intro p p' q q' hp hq
  dsimp only
  cases cl.asNumber? with
  | some x => dsimp only; rw [Flight.wingAreaRequired_congr hp hq]
  | none => dsimp only; rw [hp, hq]

lemma liftCoefficient_congr (hw : AlikeIn t .pound weight weight')
    (hp : Alike (Flight.pressureValue t.units) pressure pressure')
    (hs : AlikeIn t .squareFoot area area') :
    liftCoefficient t weight' pressure' area' = liftCoefficient t weight pressure area := by
  apply bind_pair hw hs
  intro p p' s s' hweight harea
  dsimp only
  rw [harea]
  refine bind_congr fun _ => ?_
  apply bind_measured hp
  intro q q' hq
  rw [Flight.liftCoefficient_congr hweight hq harea]

lemma lift_congr (hs : AlikeIn t .squareFoot area area')
    (hp : Alike (Flight.pressureValue t.units) pressure pressure') (cl : Value) :
    lift t cl area' pressure' = lift t cl area pressure := by
  apply bind_pair hs hp
  intro p p' q q' hp hq
  dsimp only
  cases cl.asNumber? with
  | some x => dsimp only; rw [Flight.lift_congr hp hq]
  | none => dsimp only; rw [hp, hq]

lemma wingSpan_congr (hs : AlikeIn t .squareFoot area area') (hc : AlikeIn t .foot chord chord') :
    wingSpan t area' chord' = wingSpan t area chord := by
  apply bind_pair hs hc
  intro p p' q q' hp hq
  dsimp only
  rw [Flight.wingSpan_congr hp hq]

lemma wingChord_congr (hs : AlikeIn t .squareFoot area area') (hb : AlikeIn t .foot span span') :
    wingChord t area' span' = wingChord t area span := by
  apply bind_pair hs hb
  intro p p' q q' hp hq
  dsimp only
  rw [Flight.wingChord_congr hp hq]

lemma wingLoading_congr (hw : AlikeIn t .pound weight weight')
    (hs : AlikeIn t .squareFoot area area') :
    wingLoading t weight' area' = wingLoading t weight area := by
  apply bind_pair hw hs
  intro p p' q q' hp hq
  dsimp only
  rw [Flight.wingLoading_congr hp hq]

lemma aspectRatio_congr (hb : AlikeIn t .foot span span')
    (hs : Alike (fun q p => Flight.aspectRatio t.units p q) second second') :
    aspectRatio t span' second' = aspectRatio t span second := by
  apply bind_pair hb hs
  intro p p' q q' hp hq
  dsimp only
  rw [Flight.aspectRatio_congr hp, congrFun hq p]

end Formulae

/-! ### Restated arguments -/

/--
A formula comes to the same result or the same failure when quantities among its arguments are
converted beforehand to the units of the handbook: whatever the tables, and whatever the other
arguments are.
-/
theorem formulae_of_restates (t : Tables Number)
    {altitude altitude' velocity velocity' inches inches' weight weight' area area' : Value}
    {pressure pressure' span span' chord chord' second second' : Value}
    (haltitude : Restates t (.always .foot) altitude altitude')
    (hvelocity : Restates t (.always .milePerHour) velocity velocity')
    (hinches : Restates t (.always .inch) inches inches')
    (hweight : Restates t (.always .pound) weight weight')
    (harea : Restates t (.always .squareFoot) area area')
    (hpressure : Restates t .pressureOrVelocity pressure pressure')
    (hspan : Restates t (.always .foot) span span')
    (hchord : Restates t (.always .foot) chord chord')
    (hsecond : Restates t .chordOrArea second second') (cl : Value) :
    densityRatio t altitude' = densityRatio t altitude ∧
    dynamicPressure t velocity' altitude' = dynamicPressure t velocity altitude ∧
    reynoldsNumber t inches' velocity' = reynoldsNumber t inches velocity ∧
    stallSpeed t weight' area' cl = stallSpeed t weight area cl ∧
    wingAreaRequired t weight' pressure' cl = wingAreaRequired t weight pressure cl ∧
    liftCoefficient t weight' pressure' area' = liftCoefficient t weight pressure area ∧
    lift t cl area' pressure' = lift t cl area pressure ∧
    wingSpan t area' chord' = wingSpan t area chord ∧
    wingChord t area' span' = wingChord t area span ∧
    wingLoading t weight' area' = wingLoading t weight area ∧
    aspectRatio t span' second' = aspectRatio t span second := by
  have hplanform : Alike (fun q p => Flight.aspectRatio t.units p q) second second' :=
    hsecond.alike fun _ _ hqr => funext (Flight.aspectRatio_of_restates hqr)
  have hvalue := hpressure.alike_pressureValue
  exact ⟨densityRatio_congr haltitude.alikeIn,
    dynamicPressure_congr hvelocity.alikeIn haltitude.alikeIn,
    reynoldsNumber_congr hinches.alikeIn hvelocity.alikeIn,
    stallSpeed_congr hweight.alikeIn harea.alikeIn cl,
    wingAreaRequired_congr hweight.alikeIn hvalue cl,
    liftCoefficient_congr hweight.alikeIn hvalue harea.alikeIn,
    lift_congr harea.alikeIn hvalue cl,
    wingSpan_congr harea.alikeIn hchord.alikeIn,
    wingChord_congr harea.alikeIn hspan.alikeIn,
    wingLoading_congr hweight.alikeIn harea.alikeIn,
    aspectRatio_congr hspan.alikeIn hplanform⟩

/-- Kilograms and knots, converted to pounds and miles per hour beforehand. -/
theorem formulae_of_restates_kilograms :
    ∃ pounds mph : Quantity Number,
      Quantity.convert machineTables.units ⟨.int 390, .kilogram⟩ .pound = .ok pounds ∧
      Quantity.convert machineTables.units ⟨.int 33, .knot⟩ .milePerHour = .ok mph ∧
      wingAreaRequired machineTables (.quantity pounds) (.quantity mph) (.truth true) =
        wingAreaRequired machineTables (.quantity ⟨.int 390, .kilogram⟩)
          (.quantity ⟨.int 33, .knot⟩) (.truth true) := by
  have hconverted :
      (Quantity.convert machineTables.units ⟨.int 390, .kilogram⟩ .pound).toOption.isSome ∧
      (Quantity.convert machineTables.units ⟨.int 33, .knot⟩ .milePerHour).toOption.isSome := by
    decide +kernel
  obtain ⟨pounds, hpounds⟩ := exists_of_isSome_toOption hconverted.1
  obtain ⟨mph, hmph⟩ := exists_of_isSome_toOption hconverted.2
  have hweight : Restates machineTables (.always .pound) (.quantity ⟨.int 390, .kilogram⟩)
      (.quantity pounds) := .quantities (.converted (dimension_quantity _) hpounds)
  have hspeed : Restates machineTables .pressureOrVelocity (.quantity ⟨.int 33, .knot⟩)
      (.quantity mph) := .quantities (.converted (dimension_quantity _) hmph)
  have hsame (reading : Flight.Reading) : Restates machineTables reading .null .null := .same .null
  obtain ⟨-, -, -, -, harea, -⟩ := formulae_of_restates machineTables (hsame _) (hsame _) (hsame _)
    hweight (hsame _) hspeed (hsame _) (hsame _) (hsame _) (.truth true)
  exact ⟨pounds, mph, hpounds, hmph, harea⟩

/--
In the formulae that take a pressure or a velocity, a velocity may be given as the dynamic pressure
that it comes to at sea level: they come to the same result or the same failure, whatever the other
arguments are.
-/
theorem velocity_as_pressure {velocity pressure : Quantity Number}
    (h : Flight.dynamicPressure units velocity Flight.seaLevel = .ok pressure)
    (weight area cl : Value) :
    wingAreaRequired machineTables weight (.quantity velocity) cl =
      wingAreaRequired machineTables weight (.quantity pressure) cl ∧
    liftCoefficient machineTables weight (.quantity velocity) area =
      liftCoefficient machineTables weight (.quantity pressure) area ∧
    lift machineTables cl area (.quantity velocity) =
      lift machineTables cl area (.quantity pressure) := by
  obtain ⟨hvelocity, hpressure⟩ := Flight.pressureValue_of_dynamicPressure h
  have halike : Alike (Flight.pressureValue machineTables.units) (.quantity pressure)
      (.quantity velocity) := .quantities (hvelocity.trans hpressure.symm)
  exact ⟨wingAreaRequired_congr (.same weight) halike cl,
    liftCoefficient_congr (.same weight) halike (.same area), lift_congr (.same area) halike cl⟩

/-- Thirty-three knots, and a lift coefficient that is no number. -/
theorem velocity_as_pressure_knots :
    ∃ pressure : Quantity Number,
      Flight.dynamicPressure units ⟨.int 33, .knot⟩ Flight.seaLevel = .ok pressure ∧
      lift machineTables .null (.quantity ⟨.int 111, .squareFoot⟩)
          (.quantity ⟨.int 33, .knot⟩) =
        lift machineTables .null (.quantity ⟨.int 111, .squareFoot⟩) (.quantity pressure) := by
  have hsome : (Flight.dynamicPressure units (⟨.int 33, .knot⟩ : Quantity Number)
      Flight.seaLevel).toOption.isSome := by decide +kernel
  obtain ⟨pressure, hpressure⟩ := exists_of_isSome_toOption hsome
  exact ⟨pressure, hpressure, (velocity_as_pressure hpressure .null
    (.quantity ⟨.int 111, .squareFoot⟩) .null).2.2⟩

end Script

end FlightUnits
