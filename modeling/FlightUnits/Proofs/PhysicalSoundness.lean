import FlightUnits.Proofs.ExactUnits

/-!
# Physical soundness of products and quotients

A monomial is a tree of products, quotients and signs over numbers and quantities. Whatever it
evaluates to has the exponents that the tree dictates, over exact and over machine numbers. In
exact arithmetic its value in base units is that of the same tree over the base values of the
leaves, so it does not matter in which units the leaves are given. This needs leaves in units with
a factor, and that no number is divided by a quantity, which would keep the unit of the divisor.
-/

namespace FlightUnits

open Standard

/-- A tree of products, quotients and signs. -/
inductive Monomial (α : Type) where
  | leaf (x : Operand α)
  | multiply (a b : Monomial α)
  | divide (a b : Monomial α)
  | negate (a : Monomial α)
  | positive (a : Monomial α)

namespace Monomial

variable {α β : Type}

/-- The operand that a monomial comes to. -/
def evaluate [Scalar α] (t : Tables α) : Monomial α → Except (Fault α) (Operand α)
  | leaf x => .ok x
  | multiply a b => do
    let x ← a.evaluate t
    let y ← b.evaluate t
    x.multiply t y
  | divide a b => do
    let x ← a.evaluate t
    let y ← b.evaluate t
    x.divide t y
  | negate a => do
    let x ← a.evaluate t
    return x.negate
  | positive a => a.evaluate t

/-- A monomial with its leaves under a function. -/
def map (f : Operand α → Operand β) : Monomial α → Monomial β
  | leaf x => leaf (f x)
  | multiply a b => multiply (a.map f) (b.map f)
  | divide a b => divide (a.map f) (b.map f)
  | negate a => negate (a.map f)
  | positive a => positive (a.map f)

/-- Whether some leaf is a quantity, which makes the result one. -/
def isQuantity : Monomial α → Bool
  | leaf x => x.unit?.isSome
  | multiply a b | divide a b => a.isQuantity || b.isQuantity
  | negate a | positive a => a.isQuantity

/-- Every leaf is in a unit with a factor, and no number is divided by a quantity. -/
def Scalable : Monomial α → Prop
  | leaf x => x.unit? ≠ some .fahrenheit
  | multiply a b => a.Scalable ∧ b.Scalable
  | divide a b => a.Scalable ∧ b.Scalable ∧ (b.isQuantity → a.isQuantity)
  | negate a | positive a => a.Scalable

end Monomial

/-! ### Exponents -/

section Exponents

variable {α : Type}

/-- The exponents of a unit, or of a plain number. -/
def Standard.exponents : Option MeasureUnit → Exponents
  | none => .none
  | some u => (dimension u).exponents

/-- The exponents of an operand. -/
def Operand.exponents (x : Operand α) : Exponents := Standard.exponents x.unit?

/-- The exponents that a monomial dictates. -/
def Monomial.exponents : Monomial α → Exponents
  | leaf x => x.exponents
  | multiply a b => a.exponents.mul b.exponents
  | divide a b => a.exponents.div b.exponents
  | negate a | positive a => a.exponents

lemma exponents_relatedUnit {found : List Dimension} {w : Option MeasureUnit} {x : Exponents}
    (hfound : ∀ d, found = [d] → d.exponents = x) (h : relatedUnit found = .ok w) :
    exponents w = x := by
  unfold relatedUnit at h
  split at h
  next d =>
    rw [← Except.ok.inj h, exponents, dimension_baseUnit]
    exact hfound d rfl
  next => exact nomatch h

lemma exponents_resultUnit_times {u v w : Option MeasureUnit} (h : resultUnit .times u v = .ok w) :
    exponents w = (exponents u).mul (exponents v) := by
  cases u with
  | none =>
    rw [exponents.eq_1, Exponents.none_mul]
    cases v <;> exact Except.ok.inj h ▸ rfl
  | some u =>
    cases v with
    | none =>
      rw [exponents.eq_1, Exponents.mul_none]
      exact Except.ok.inj h ▸ rfl
    | some v =>
      refine exponents_relatedUnit (fun d hd => ?_) h
      exact exponents_of_multiplyDimensions (α := Rat) (multiplyDimensions_eq_ok_iff.mpr hd)

lemma exponents_resultUnit_slash {u v w : Option MeasureUnit} (h : resultUnit .slash u v = .ok w)
    (hv : v.isSome → u.isSome) : exponents w = (exponents u).div (exponents v) := by
  cases v with
  | none =>
    rw [exponents.eq_1, Exponents.div_none]
    cases u <;> exact Except.ok.inj h ▸ rfl
  | some v =>
    obtain ⟨u, rfl⟩ := Option.isSome_iff_exists.mp (hv rfl)
    refine exponents_relatedUnit (fun d hd => ?_) h
    exact exponents_of_divideDimensions (α := Rat) (divideDimensions_eq_ok_iff.mpr hd)

end Exponents

/-! ### What a monomial evaluates to -/

namespace Monomial

section Evaluation

variable {α : Type} [Scalar α] {a b e : Monomial α} {r : Operand α}

lemma multiply_evaluate {t : Tables α} (h : (multiply a b).evaluate t = .ok r) :
    ∃ x y, a.evaluate t = .ok x ∧ b.evaluate t = .ok y ∧ x.multiply t y = .ok r := by
  obtain ⟨x, hx, h⟩ := bind_eq_ok_iff.mp h
  obtain ⟨y, hy, h⟩ := bind_eq_ok_iff.mp h
  exact ⟨x, y, hx, hy, h⟩

lemma divide_evaluate {t : Tables α} (h : (divide a b).evaluate t = .ok r) :
    ∃ x y, a.evaluate t = .ok x ∧ b.evaluate t = .ok y ∧ x.divide t y = .ok r := by
  obtain ⟨x, hx, h⟩ := bind_eq_ok_iff.mp h
  obtain ⟨y, hy, h⟩ := bind_eq_ok_iff.mp h
  exact ⟨x, y, hx, hy, h⟩

lemma negate_evaluate {t : Tables α} (h : (negate a).evaluate t = .ok r) :
    ∃ x, a.evaluate t = .ok x ∧ x.negate = r := by
  obtain ⟨x, hx, h⟩ := bind_eq_ok_iff.mp h
  exact ⟨x, hx, Except.ok.inj h⟩

variable [FindsBases α]

/-- A monomial comes to a quantity when one of its leaves is one. -/
lemma isSome_evaluate (h : e.evaluate tables = .ok r) : r.unit?.isSome = e.isQuantity := by
  induction e generalizing r with
  | leaf x => exact Except.ok.inj h ▸ rfl
  | multiply a b iha ihb =>
    obtain ⟨x, y, hx, hy, hr⟩ := multiply_evaluate h
    rw [isSome_resultUnit (Operand.unit?_multiply hr), iha hx, ihb hy, isQuantity]
  | divide a b iha ihb =>
    obtain ⟨x, y, hx, hy, hr⟩ := divide_evaluate h
    rw [isSome_resultUnit (Operand.unit?_divide hr), iha hx, ihb hy, isQuantity]
  | negate a ih =>
    obtain ⟨x, hx, rfl⟩ := negate_evaluate h
    rw [Operand.unit?_negate, ih hx, isQuantity]
  | positive a ih => exact ih h

/-- No product or quotient is in degrees Fahrenheit. -/
lemma evaluate_ne_fahrenheit (he : e.Scalable) (h : e.evaluate tables = .ok r) :
    r.unit? ≠ some .fahrenheit := by
  induction e generalizing r with
  | leaf x => exact Except.ok.inj h ▸ he
  | multiply a b iha ihb =>
    obtain ⟨x, y, hx, hy, hr⟩ := multiply_evaluate h
    exact scaledUnit_ne_fahrenheit (Operand.unit?_multiply hr) (iha he.1 hx) (ihb he.2 hy)
  | divide a b iha ihb =>
    obtain ⟨x, y, hx, hy, hr⟩ := divide_evaluate h
    exact scaledUnit_ne_fahrenheit (Operand.unit?_divide hr) (iha he.1 hx) (ihb he.2.1 hy)
  | negate a ih =>
    obtain ⟨x, hx, rfl⟩ := negate_evaluate h
    rw [Operand.unit?_negate]
    exact ih he hx
  | positive a ih => exact ih he h

/-- What a monomial comes to has the exponents that the monomial dictates. -/
theorem exponents_evaluate (he : e.Scalable) (h : e.evaluate tables = .ok r) :
    r.exponents = e.exponents := by
  induction e generalizing r with
  | leaf x => exact Except.ok.inj h ▸ rfl
  | multiply a b iha ihb =>
    obtain ⟨x, y, hx, hy, hr⟩ := multiply_evaluate h
    rw [exponents, ← iha he.1 hx, ← ihb he.2 hy]
    exact exponents_resultUnit_times (Operand.unit?_multiply hr)
  | divide a b iha ihb =>
    obtain ⟨x, y, hx, hy, hr⟩ := divide_evaluate h
    -- a number over a quantity would keep the unit of the divisor
    have hshape : y.unit?.isSome → x.unit?.isSome := by
      rw [isSome_evaluate hx, isSome_evaluate hy]
      exact he.2.2
    rw [exponents, ← iha he.1 hx, ← ihb he.2.1 hy]
    exact exponents_resultUnit_slash (Operand.unit?_divide hr) hshape
  | negate a ih =>
    obtain ⟨x, hx, rfl⟩ := negate_evaluate h
    rw [Operand.exponents, Operand.unit?_negate, exponents]
    exact ih he hx
  | positive a ih => exact ih he h

end Evaluation

end Monomial

/-! ### Values in base units -/

namespace Operand

variable {a b r : Operand Rat}

/-- An operand expressed in the base unit of its dimension, without rounding. -/
def toBaseUnit (t : UnitTable Rat) : Operand Rat → Except (Fault Rat) (Operand Rat)
  | number x => .ok (number x)
  | quantity q => do
    let b ← q.toBaseUnit t
    return quantity b

/-- What an operand is in the base unit of its dimension in the standard table. -/
def inBase : Operand Rat → Operand Rat
  | number x => number x
  | quantity q => quantity q.inBase

lemma toBaseUnit_units (a : Operand Rat) : a.toBaseUnit units = .ok a.inBase := by
  cases a with
  | number x => rfl
  | quantity q => simp [toBaseUnit, inBase]

lemma inBase_negate (ha : a.unit? ≠ some .fahrenheit) : a.negate.inBase = a.inBase.negate := by
  cases a with
  | number x => rfl
  | quantity q =>
    have hu : q.unit ≠ .fahrenheit := fun h => ha (congrArg some h)
    simp only [negate, inBase, Quantity.inBase, toBase_of_ne hu, Scalar.neg]
    rw [mul_neg]

lemma multiply_inBase (ha : a.unit? ≠ some .fahrenheit) (hb : b.unit? ≠ some .fahrenheit) :
    multiply tables a.inBase b.inBase = (multiply tables a b).map inBase := by
  cases a with
  | number x =>
    cases b with
    | number y => rfl
    | quantity q =>
      have hu : q.unit ≠ .fahrenheit := fun h => hb (congrArg some h)
      change Except.ok (quantity ⟨x * toBase q.unit q.value, baseUnit (dimension q.unit)⟩) =
        Except.ok (quantity ⟨toBase q.unit (x * q.value), baseUnit (dimension q.unit)⟩)
      rw [toBase_of_ne hu, toBase_of_ne hu, mul_left_comm]
  | quantity p =>
    cases b with
    | number y =>
      have hu : p.unit ≠ .fahrenheit := fun h => ha (congrArg some h)
      change Except.ok (quantity ⟨toBase p.unit p.value * y, baseUnit (dimension p.unit)⟩) =
        Except.ok (quantity ⟨toBase p.unit (p.value * y), baseUnit (dimension p.unit)⟩)
      rw [toBase_of_ne hu, toBase_of_ne hu, mul_assoc]
    | quantity q =>
      simp only [inBase, multiply_exact, Quantity.inBase, dimension_baseUnit, toBase_baseUnit]
      cases multiplyDimensions relations (dimension p.unit) (dimension q.unit) with
      | error f => rfl
      | ok d => simp [Except.map, inBase, Quantity.inBase]

lemma divide_by_number (a : Operand Rat) (y : Rat) :
    divide tables a (number y) =
      if y = 0 then .error (.arithmetic (.divisionByZero false))
      else .ok (a.map fun x => x / y) := by
  cases a <;>
  · simp only [divide, scale, Scalar.div]
    split <;> rfl

lemma divide_inBase (ha : a.unit? ≠ some .fahrenheit) (hab : b.unit?.isSome → a.unit?.isSome) :
    divide tables a.inBase b.inBase = (divide tables a b).map inBase := by
  cases b with
  | number y =>
    rw [inBase, divide_by_number, divide_by_number]
    split
    next => rfl
    next =>
      cases a with
      | number x => rfl
      | quantity p =>
        have hu : p.unit ≠ .fahrenheit := fun h => ha (congrArg some h)
        change Except.ok (quantity ⟨toBase p.unit p.value / y, baseUnit (dimension p.unit)⟩) =
          Except.ok (quantity ⟨toBase p.unit (p.value / y), baseUnit (dimension p.unit)⟩)
        rw [toBase_of_ne hu, toBase_of_ne hu, mul_div_assoc]
  | quantity q =>
    cases a with
    | number x => exact absurd (hab rfl) Bool.false_ne_true
    | quantity p =>
      simp only [inBase, divide_exact, Quantity.inBase, dimension_baseUnit, toBase_baseUnit]
      cases divideDimensions relations (dimension p.unit) (dimension q.unit) with
      | error f => rfl
      | ok d =>
        simp only [ok_bind]
        split
        next => rfl
        next => simp [Except.map, inBase, Quantity.inBase]

lemma value_multiply_inBase (h : multiply tables a.inBase b.inBase = .ok r) :
    r.value = a.inBase.value * b.inBase.value := by
  cases a with
  | number x => cases b <;> exact Except.ok.inj h ▸ rfl
  | quantity p =>
    cases b with
    | number y => exact Except.ok.inj h ▸ rfl
    | quantity q =>
      obtain ⟨d, -, rfl⟩ := multiply_eq_ok_iff.mp h
      simp only [Quantity.inBase, toBase_baseUnit, inBase, value]

lemma value_divide_inBase (h : divide tables a.inBase b.inBase = .ok r)
    (hab : b.unit?.isSome → a.unit?.isSome) :
    b.inBase.value ≠ 0 ∧ r.value = a.inBase.value / b.inBase.value := by
  cases b with
  | number y =>
    rw [inBase, divide_by_number] at h
    split at h
    next => exact nomatch h
    next hy =>
      refine ⟨hy, ?_⟩
      cases a <;> exact Except.ok.inj h ▸ rfl
  | quantity q =>
    cases a with
    | number x => exact absurd (hab rfl) Bool.false_ne_true
    | quantity p =>
      obtain ⟨d, -, hq, rfl⟩ := divide_eq_ok_iff.mp h
      rw [Quantity.inBase, toBase_baseUnit] at hq
      exact ⟨hq, by simp only [Quantity.inBase, toBase_baseUnit, inBase, value]⟩

lemma inBase_value_multiply (h : multiply tables a b = .ok r) (ha : a.unit? ≠ some .fahrenheit)
    (hb : b.unit? ≠ some .fahrenheit) : r.inBase.value = a.inBase.value * b.inBase.value := by
  apply value_multiply_inBase
  rw [multiply_inBase ha hb, h, Except.map]

lemma inBase_value_divide (h : divide tables a b = .ok r) (ha : a.unit? ≠ some .fahrenheit)
    (hab : b.unit?.isSome → a.unit?.isSome) :
    b.inBase.value ≠ 0 ∧ r.inBase.value = a.inBase.value / b.inBase.value := by
  refine value_divide_inBase ?_ hab
  rw [divide_inBase ha hab, h, Except.map]

end Operand

namespace Monomial

variable {e : Monomial Rat} {r : Operand Rat}

/-- A monomial over leaves in base units comes to the same, in base units. -/
theorem evaluate_inBase (he : e.Scalable) :
    (e.map Operand.inBase).evaluate tables = (e.evaluate tables).map Operand.inBase := by
  induction e with
  | leaf x => rfl
  | multiply a b iha ihb =>
    simp only [map, evaluate, iha he.1, ihb he.2]
    cases hx : a.evaluate tables with
    | error f => rfl
    | ok x =>
      cases hy : b.evaluate tables with
      | error f => rfl
      | ok y =>
        exact Operand.multiply_inBase (evaluate_ne_fahrenheit he.1 hx)
          (evaluate_ne_fahrenheit he.2 hy)
  | divide a b iha ihb =>
    simp only [map, evaluate, iha he.1, ihb he.2.1]
    cases hx : a.evaluate tables with
    | error f => rfl
    | ok x =>
      cases hy : b.evaluate tables with
      | error f => rfl
      | ok y =>
        refine Operand.divide_inBase (evaluate_ne_fahrenheit he.1 hx) ?_
        rw [isSome_evaluate hx, isSome_evaluate hy]
        exact he.2.2
  | negate a ih =>
    simp only [map, evaluate, ih he]
    cases hx : a.evaluate tables with
    | error f => rfl
    | ok x =>
      -- a change of sign commutes with the change of the unit only without an offset
      have hu : x.unit? ≠ some .fahrenheit := evaluate_ne_fahrenheit (show a.Scalable from he) hx
      exact congrArg Except.ok (Operand.inBase_negate hu).symm
  | positive a ih => exact ih he

/-- The base value of a monomial is that of the same monomial over the base values alone. -/
theorem evaluate_baseValues (he : e.Scalable) (h : e.evaluate tables = .ok r) :
    (e.map fun x => .number x.inBase.value).evaluate tables = .ok (.number r.inBase.value) := by
  induction e generalizing r with
  | leaf x => exact Except.ok.inj h ▸ rfl
  | multiply a b iha ihb =>
    obtain ⟨x, y, hx, hy, hr⟩ := multiply_evaluate h
    have hv := Operand.inBase_value_multiply hr (evaluate_ne_fahrenheit he.1 hx)
      (evaluate_ne_fahrenheit he.2 hy)
    simp only [map, evaluate, iha he.1 hx, ihb he.2 hy, ok_bind, hv]
    rfl
  | divide a b iha ihb =>
    obtain ⟨x, y, hx, hy, hr⟩ := divide_evaluate h
    have hshape : y.unit?.isSome → x.unit?.isSome := by
      rw [isSome_evaluate hx, isSome_evaluate hy]
      exact he.2.2
    obtain ⟨hne, hv⟩ := Operand.inBase_value_divide hr (evaluate_ne_fahrenheit he.1 hx) hshape
    simp only [map, evaluate, iha he.1 hx, ihb he.2.1 hy, ok_bind, hv, Operand.divide_by_number,
      if_neg hne]
    rfl
  | negate a ih =>
    obtain ⟨x, hx, rfl⟩ := negate_evaluate h
    have hu : x.unit? ≠ some .fahrenheit := evaluate_ne_fahrenheit (show a.Scalable from he) hx
    simp only [map, evaluate, ih he hx, ok_bind, Operand.inBase_negate hu]
    cases x <;> rfl
  | positive a ih => exact ih he h

/--
Physical soundness: what a monomial comes to has the exponents that the monomial dictates, over
machine and over exact numbers, and its exact base value is that of the monomial over the base
values of its leaves. Monomials whose leaves are the same in base units come to the same in base
units, or fail alike.
-/
theorem evaluate_physically_sound :
    (∀ x : Operand Rat, x.toBaseUnit units = .ok x.inBase) ∧
    (∀ (e : Monomial Number) (r : Operand Number), e.Scalable → e.evaluate tables = .ok r →
      r.exponents = e.exponents) ∧
    (∀ (e : Monomial Rat) (r : Operand Rat), e.Scalable → e.evaluate tables = .ok r →
      r.exponents = e.exponents ∧
      (e.map fun x => .number x.inBase.value).evaluate tables = .ok (.number r.inBase.value)) ∧
    (∀ e e' : Monomial Rat, e.Scalable → e'.Scalable →
      e.map Operand.inBase = e'.map Operand.inBase →
      (e.evaluate tables).map Operand.inBase = (e'.evaluate tables).map Operand.inBase) := by
  refine ⟨Operand.toBaseUnit_units, fun e r => exponents_evaluate, fun e r he h => ?_,
    fun e e' he he' hleaves => ?_⟩
  · exact ⟨exponents_evaluate he h, evaluate_baseValues he h⟩
  · rw [← evaluate_inBase he, ← evaluate_inBase he', hleaves]

/-- A number of times the quotient of two quantities. -/
def timesQuotient {α : Type} (k : α) (p q : Quantity α) : Monomial α :=
  multiply (leaf (.number k)) (divide (leaf (.quantity p)) (leaf (.quantity q)))

/-- Twice a density, of grams by litres and of kilograms by cubic metres. -/
theorem evaluate_physically_sound_density :
    (timesQuotient 2 ⟨1000, .gram⟩ ⟨500, .litre⟩).evaluate tables =
      .ok (.quantity ⟨(4 : Rat), .kilogramPerCubicMetre⟩) ∧
    Dimension.density.exponents =
      (timesQuotient (2 : Rat) ⟨1000, .gram⟩ ⟨500, .litre⟩).exponents ∧
    ((timesQuotient 2 ⟨1000, .gram⟩ ⟨500, .litre⟩).map fun x => .number x.inBase.value).evaluate
      tables = .ok (.number (toBase .kilogramPerCubicMetre 4)) ∧
    ((timesQuotient 2 ⟨1000, .gram⟩ ⟨500, .litre⟩).evaluate tables).map Operand.inBase =
      ((timesQuotient 2 ⟨1, .kilogram⟩ ⟨1 / 2, .cubicMetre⟩).evaluate tables).map
        Operand.inBase ∧
    (timesQuotient (Number.int 2) ⟨.int 1000, .gram⟩ ⟨.int 500, .litre⟩).evaluate tables =
      .ok (.quantity ⟨.real (.ofInt 4), .kilogramPerCubicMetre⟩) ∧
    Dimension.density.exponents =
      (timesQuotient (Number.int 2) ⟨.int 1000, .gram⟩ ⟨.int 500, .litre⟩).exponents := by
  obtain ⟨-, hmachine, hexact, hunits⟩ := evaluate_physically_sound
  have hscalable {α : Type} (k x y : α) {u v : MeasureUnit} (hu : u ≠ .fahrenheit)
      (hv : v ≠ .fahrenheit) : (timesQuotient k ⟨x, u⟩ ⟨y, v⟩).Scalable := by
    simp [timesQuotient, Scalable, Operand.unit?, isQuantity, hu, hv]
  have he := hscalable (2 : Rat) 1000 500 (u := .gram) (v := .litre) (by decide) (by decide)
  have he' := hscalable (2 : Rat) 1 (1 / 2) (u := .kilogram) (v := .cubicMetre) (by decide)
    (by decide)
  have hm := hscalable (Number.int 2) (.int 1000) (.int 500) (u := .gram) (v := .litre)
    (by decide) (by decide)
  have hr : (timesQuotient 2 ⟨1000, .gram⟩ ⟨500, .litre⟩).evaluate tables =
      .ok (.quantity ⟨(4 : Rat), .kilogramPerCubicMetre⟩) := by decide +kernel
  have hmr : (timesQuotient (Number.int 2) ⟨.int 1000, .gram⟩ ⟨.int 500, .litre⟩).evaluate tables =
      .ok (.quantity ⟨.real (.ofInt 4), .kilogramPerCubicMetre⟩) := by decide +kernel
  have hleaves : (timesQuotient (2 : Rat) ⟨1000, .gram⟩ ⟨500, .litre⟩).map Operand.inBase =
      (timesQuotient (2 : Rat) ⟨1, .kilogram⟩ ⟨1 / 2, .cubicMetre⟩).map Operand.inBase := by
    have hmass : Quantity.inBase ⟨1000, .gram⟩ = Quantity.inBase ⟨1, .kilogram⟩ := by
      decide +kernel
    have hvolume : Quantity.inBase ⟨500, .litre⟩ = Quantity.inBase ⟨1 / 2, .cubicMetre⟩ := by
      decide +kernel
    simp only [timesQuotient, map, Operand.inBase, hmass, hvolume]
  obtain ⟨hexponents, hvalue⟩ := hexact _ _ he hr
  exact ⟨hr, hexponents, hvalue, hunits _ _ he he' hleaves, hmr, hmachine _ _ hm hmr⟩

end Monomial

end FlightUnits
