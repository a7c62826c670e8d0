import FlightUnits.Proofs.ExactUnits

/-!
# Regrouping a product

A product of three quantities can be grouped in two ways, by way of different dimensions and
different relations. Where both ways succeed the exponents and the exact value agree, and so does
the unit but for one product: a force, a velocity and a time make an energy when the power is made
first, and a moment when the length is.
-/

namespace FlightUnits

open Standard

namespace Dimension

/-- A velocity between a force and a time. -/
def IsVelocityBetween (a b c : Dimension) : Prop :=
  b = velocity ∧ ((a = force ∧ c = time) ∨ (a = time ∧ c = force))

instance (a b c : Dimension) : Decidable (IsVelocityBetween a b c) :=
  inferInstanceAs (Decidable (_ ∧ _))

lemma IsVelocityBetween.symm {a b c : Dimension} (h : IsVelocityBetween c b a) :
    IsVelocityBetween a b c := by
  obtain ⟨hb, ⟨hc, ha⟩ | ⟨hc, ha⟩⟩ := h
  · exact ⟨hb, Or.inr ⟨ha, hc⟩⟩
  · exact ⟨hb, Or.inl ⟨ha, hc⟩⟩

end Dimension

namespace Standard

variable {α : Type} {a b c d e p q x y : Dimension}

/-- A product that is resolved has the factors of a relation with that product. -/
lemma factors_of_multiplyDimensions (hp : ∀ r ∈ relations, r.product = p → r = ⟨p, x, y⟩)
    (h : (multiplyDimensions relations a b : Except (Fault α) Dimension) = .ok p) :
    (a = x ∧ b = y) ∨ (a = y ∧ b = x) := by
  obtain ⟨r, hr, hab, hproduct⟩ := exists_of_multiplyDimensions h
  obtain rfl := hp r hr hproduct
  rcases Relation.hasFactors_iff.mp hab with ⟨ha, hb⟩ | ⟨hb, ha⟩
  · exact Or.inl ⟨ha.symm, hb.symm⟩
  · exact Or.inr ⟨ha.symm, hb.symm⟩

lemma ne_time_of_multiplyDimensions
    (h : (multiplyDimensions relations a b : Except (Fault α) Dimension) = .ok p) : p ≠ .time := by
  obtain ⟨r, hr, -, rfl⟩ := exists_of_multiplyDimensions h
  have hnone : ∀ r ∈ relations, r.product ≠ .time := by decide
  exact hnone r hr

/-- An energy that is a moment when regrouped is a force by a velocity, by a time. -/
lemma isVelocityBetween_of_energy
    (hp : (multiplyDimensions relations a b : Except (Fault α) Dimension) = .ok p)
    (hd : (multiplyDimensions relations p c : Except (Fault α) Dimension) = .ok .energy)
    (he : (multiplyDimensions relations a q : Except (Fault α) Dimension) = .ok .moment) :
    Dimension.IsVelocityBetween a b c := by
  rcases factors_of_multiplyDimensions (x := .power) (y := .time) (by decide) hd with
    ⟨rfl, rfl⟩ | ⟨rfl, -⟩
  · have hab := factors_of_multiplyDimensions (x := .force) (y := .velocity) (by decide) hp
    have haq := factors_of_multiplyDimensions (x := .length) (y := .force) (by decide) he
    rcases hab with ⟨rfl, rfl⟩ | ⟨rfl, -⟩
    · exact ⟨rfl, Or.inl ⟨rfl, rfl⟩⟩
    · simp at haq
  · exact absurd rfl (ne_time_of_multiplyDimensions hp)

/-- Unless a velocity stands between a force and a time, both groupings have one dimension. -/
theorem multiplyDimensions_regroup
    (hp : (multiplyDimensions relations a b : Except (Fault α) Dimension) = .ok p)
    (hd : (multiplyDimensions relations p c : Except (Fault α) Dimension) = .ok d)
    (hq : (multiplyDimensions relations b c : Except (Fault α) Dimension) = .ok q)
    (he : (multiplyDimensions relations a q : Except (Fault α) Dimension) = .ok e)
    (h : ¬ Dimension.IsVelocityBetween a b c) : d = e := by
  have hexponents : d.exponents = e.exponents := by
    rw [exponents_of_multiplyDimensions hd, exponents_of_multiplyDimensions hp,
      exponents_of_multiplyDimensions he, exponents_of_multiplyDimensions hq, Exponents.mul_assoc]
  rcases Dimension.exponents_eq_iff.mp hexponents with hde | ⟨rfl, rfl⟩ | ⟨rfl, rfl⟩
  · exact hde
  · exact absurd (isVelocityBetween_of_energy hp hd he) h
  · -- the same from the other end: products of dimensions commute
    have hreverse := isVelocityBetween_of_energy (multiplyDimensions_comm hq)
      (multiplyDimensions_comm he) (multiplyDimensions_comm hd)
    exact absurd hreverse.symm h

/-- A velocity between a force and a time makes an energy in one grouping, a moment in the other. -/
theorem areEnergyAndMoment_of_isVelocityBetween
    (hp : (multiplyDimensions relations a b : Except (Fault α) Dimension) = .ok p)
    (hd : (multiplyDimensions relations p c : Except (Fault α) Dimension) = .ok d)
    (hq : (multiplyDimensions relations b c : Except (Fault α) Dimension) = .ok q)
    (he : (multiplyDimensions relations a q : Except (Fault α) Dimension) = .ok e)
    (h : Dimension.IsVelocityBetween a b c) : Dimension.AreEnergyAndMoment d e := by
  rw [multiplyDimensions_eq_ok_iff] at hp hd hq he
  obtain ⟨rfl, ⟨rfl, rfl⟩ | ⟨rfl, rfl⟩⟩ := h
  · obtain rfl : .power = p := List.singleton_inj.mp hp
    obtain rfl : .length = q := List.singleton_inj.mp hq
    exact Or.inl ⟨(List.singleton_inj.mp hd).symm, (List.singleton_inj.mp he).symm⟩
  · obtain rfl : .length = p := List.singleton_inj.mp hp
    obtain rfl : .power = q := List.singleton_inj.mp hq
    exact Or.inr ⟨(List.singleton_inj.mp hd).symm, (List.singleton_inj.mp he).symm⟩

end Standard

namespace Operand

section Groupings

variable {α : Type} [Scalar α]

/-- The product of three operands, with the first two multiplied first. -/
def multiplyFirst (t : Tables α) (a b c : Operand α) : Except (Fault α) (Operand α) := do
  let ab ← multiply t a b
  multiply t ab c

/-- The product of three operands, with the last two multiplied first. -/
def multiplyLast (t : Tables α) (a b c : Operand α) : Except (Fault α) (Operand α) := do
  let bc ← multiply t b c
  multiply t a bc

end Groupings

variable {a b c : Quantity Rat} {l r : Operand Rat}

lemma exists_of_multiplyFirst
    (h : multiplyFirst tables (quantity a) (quantity b) (quantity c) = .ok l) :
    ∃ p d, (multiplyDimensions relations (dimension a.unit) (dimension b.unit) :
        Except (Fault Rat) Dimension) = .ok p ∧
      (multiplyDimensions relations p (dimension c.unit) :
        Except (Fault Rat) Dimension) = .ok d ∧
      l = quantity ⟨toBase a.unit a.value * toBase b.unit b.value * toBase c.unit c.value,
        baseUnit d⟩ := by
  obtain ⟨ab, hab, hl⟩ := bind_eq_ok_iff.mp h
  obtain ⟨p, hp, rfl⟩ := multiply_eq_ok_iff.mp hab
  obtain ⟨d, hd, rfl⟩ := multiply_eq_ok_iff.mp hl
  rw [dimension_baseUnit] at hd
  rw [toBase_baseUnit]
  exact ⟨p, d, hp, hd, rfl⟩

lemma exists_of_multiplyLast
    (h : multiplyLast tables (quantity a) (quantity b) (quantity c) = .ok r) :
    ∃ q e, (multiplyDimensions relations (dimension b.unit) (dimension c.unit) :
        Except (Fault Rat) Dimension) = .ok q ∧
      (multiplyDimensions relations (dimension a.unit) q :
        Except (Fault Rat) Dimension) = .ok e ∧
      r = quantity ⟨toBase a.unit a.value * (toBase b.unit b.value * toBase c.unit c.value),
        baseUnit e⟩ := by
  obtain ⟨bc, hbc, hr⟩ := bind_eq_ok_iff.mp h
  obtain ⟨q, hq, rfl⟩ := multiply_eq_ok_iff.mp hbc
  obtain ⟨e, he, rfl⟩ := multiply_eq_ok_iff.mp hr
  rw [dimension_baseUnit] at he
  rw [toBase_baseUnit]
  exact ⟨q, e, hq, he, rfl⟩

/-- Regrouping can change the unit: a newton by a metre per second, by a second. -/
theorem not_multiplyFirst_eq_multiplyLast :
    ¬ ∀ (a b c : Quantity Rat) (l r : Operand Rat),
      multiplyFirst tables (quantity a) (quantity b) (quantity c) = .ok l →
      multiplyLast tables (quantity a) (quantity b) (quantity c) = .ok r → l = r := by
  intro h
  have hfirst : multiplyFirst tables (quantity ⟨1, .newton⟩) (quantity ⟨1, .metrePerSecond⟩)
      (quantity ⟨1, .second⟩) = .ok (quantity ⟨(1 : Rat), .joule⟩) := by decide +kernel
  have hlast : multiplyLast tables (quantity ⟨1, .newton⟩) (quantity ⟨1, .metrePerSecond⟩)
      (quantity ⟨1, .second⟩) = .ok (quantity ⟨(1 : Rat), .newtonMetre⟩) := by decide +kernel
  exact absurd (h _ _ _ _ _ hfirst hlast) (by decide)

/--
A product of three quantities that succeeds in both groupings has one exact value. The two results
are the same quantity unless a velocity stands between a force and a time: then one of them is an
energy in joules and the other a moment in newton metres.
-/
theorem multiply_regroup {a b c : Quantity Rat} {l r : Operand Rat}
    (hl : multiplyFirst tables (quantity a) (quantity b) (quantity c) = .ok l)
    (hr : multiplyLast tables (quantity a) (quantity b) (quantity c) = .ok r) :
    l.value = r.value ∧
    (¬ Dimension.IsVelocityBetween (dimension a.unit) (dimension b.unit) (dimension c.unit) →
      l = r) ∧
    (Dimension.IsVelocityBetween (dimension a.unit) (dimension b.unit) (dimension c.unit) →
      (l.unit? = some .joule ∧ r.unit? = some .newtonMetre) ∨
      (l.unit? = some .newtonMetre ∧ r.unit? = some .joule)) := by
  obtain ⟨p, d, hp, hd, rfl⟩ := exists_of_multiplyFirst hl
  obtain ⟨q, e, hq, he, rfl⟩ := exists_of_multiplyLast hr
  refine ⟨mul_assoc _ _ _, fun h => ?_, fun h => ?_⟩
  · rw [multiplyDimensions_regroup hp hd hq he h, mul_assoc]
  · rcases areEnergyAndMoment_of_isVelocityBetween hp hd hq he h with ⟨rfl, rfl⟩ | ⟨rfl, rfl⟩
    · exact Or.inl ⟨rfl, rfl⟩
    · exact Or.inr ⟨rfl, rfl⟩

/-- A volume of feet, inches and metres, and minutes by knots and a pound force. -/
theorem multiply_regroup_volume :
    (∃ l r : Operand Rat,
      multiplyFirst tables (quantity ⟨10, .foot⟩) (quantity ⟨100, .inch⟩)
        (quantity ⟨2, .metre⟩) = .ok l ∧
      multiplyLast tables (quantity ⟨10, .foot⟩) (quantity ⟨100, .inch⟩)
        (quantity ⟨2, .metre⟩) = .ok r ∧ l = r) ∧
    ∃ l r : Operand Rat,
      multiplyFirst tables (quantity ⟨3, .minute⟩) (quantity ⟨2, .knot⟩)
        (quantity ⟨1, .poundForce⟩) = .ok l ∧
      multiplyLast tables (quantity ⟨3, .minute⟩) (quantity ⟨2, .knot⟩)
        (quantity ⟨1, .poundForce⟩) = .ok r ∧ l.value = r.value ∧
      ((l.unit? = some .joule ∧ r.unit? = some .newtonMetre) ∨
        (l.unit? = some .newtonMetre ∧ r.unit? = some .joule)) := by
  have hvolume : multiplyFirst tables (quantity ⟨10, .foot⟩) (quantity ⟨100, .inch⟩)
      (quantity ⟨2, .metre⟩) = .ok (quantity ⟨(1548384 / 100000 : Rat), .cubicMetre⟩) := by
    decide +kernel
  have hvolume' : multiplyLast tables (quantity ⟨10, .foot⟩) (quantity ⟨100, .inch⟩)
      (quantity ⟨2, .metre⟩) = .ok (quantity ⟨(1548384 / 100000 : Rat), .cubicMetre⟩) := by
    decide +kernel
  have hmoment : multiplyFirst tables (quantity ⟨3, .minute⟩) (quantity ⟨2, .knot⟩)
      (quantity ⟨1, .poundForce⟩) =
        .ok (quantity ⟨(8166935592 / 10000000 : Rat), .newtonMetre⟩) := by decide +kernel
  have henergy : multiplyLast tables (quantity ⟨3, .minute⟩) (quantity ⟨2, .knot⟩)
      (quantity ⟨1, .poundForce⟩) =
        .ok (quantity ⟨(8166935592 / 10000000 : Rat), .joule⟩) := by decide +kernel
  obtain ⟨-, hsame, -⟩ := multiply_regroup hvolume hvolume'
  obtain ⟨hvalue, -, hunits⟩ := multiply_regroup hmoment henergy
  exact ⟨⟨_, _, hvolume, hvolume', hsame (by decide)⟩,
    ⟨_, _, hmoment, henergy, hvalue, hunits (by decide)⟩⟩

end Operand

end FlightUnits
