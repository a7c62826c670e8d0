import FlightUnits.Exponents
import FlightUnits.Proofs.StandardTables

/-!
# Dimensions of products and quotients

A product of dimensions that is resolved comes from a relation of the list whose factors are the
two, and a quotient from a relation whose product is the numerator. The order of the factors does
not matter. In the standard list every relation is resolved in both directions and balances the
exponents of its dimensions.
-/

namespace FlightUnits

namespace Relation

variable {r : Relation} {a b d : Dimension}

lemma hasFactors_comm (r : Relation) (a b : Dimension) : r.hasFactors a b = r.hasFactors b a := by
  simp only [hasFactors, Bool.or_comm]

lemma hasFactors_iff :
    r.hasFactors a b ↔ (r.left = a ∧ r.right = b) ∨ (r.left = b ∧ r.right = a) := by
  simp [hasFactors]

lemma hasFactor_iff : r.hasFactor d ↔ d = r.left ∨ d = r.right := by
  simp [hasFactor]

lemma hasFactors_otherFactor (h : r.hasFactor d) : r.hasFactors (r.otherFactor d) d := by
  rw [hasFactors_iff, otherFactor]
  rcases hasFactor_iff.mp h with hl | hr
  · rw [if_pos hl]
    exact Or.inr ⟨hl.symm, rfl⟩
  · split
    · exact Or.inr ⟨by simp_all, rfl⟩
    · exact Or.inl ⟨rfl, hr.symm⟩

/-- The exponents of the product are those of the factors together. -/
def Balanced (r : Relation) : Prop := r.product.exponents = r.left.exponents.mul r.right.exponents

instance (r : Relation) : Decidable r.Balanced := inferInstanceAs (Decidable (_ = _))

end Relation

section Resolution

variable {α : Type} {relations : List Relation} {a b c d n p : Dimension}

lemma products_comm (relations : List Relation) (a b : Dimension) :
    products relations a b = products relations b a := by
  simp only [products, Relation.hasFactors_comm _ a b]

lemma multiplyDimensions_eq_ok_iff :
    (multiplyDimensions relations a b : Except (Fault α) Dimension) = .ok p ↔
      products relations a b = [p] := by
  unfold multiplyDimensions
  split <;> simp_all

lemma divideDimensions_eq_ok_iff :
    (divideDimensions relations n d : Except (Fault α) Dimension) = .ok c ↔
      cofactors relations n d = [c] := by
  unfold divideDimensions
  split <;> simp_all

lemma ends_multiplyDimensions (relations : List Relation) (a b : Dimension) :
    Ends (fun p => products relations a b = [p])
      (fun f : Fault α => f.kind = .unresolvedDimension) (multiplyDimensions relations a b) := by
  unfold multiplyDimensions
  split
  next p hp => exact .ok hp
  next => exact .error rfl

lemma ends_divideDimensions (relations : List Relation) (n d : Dimension) :
    Ends (fun c => cofactors relations n d = [c])
      (fun f : Fault α => f.kind = .unresolvedDimension) (divideDimensions relations n d) := by
  unfold divideDimensions
  split
  next c hc => exact .ok hc
  next => exact .error rfl

lemma multiplyDimensions_comm
    (h : (multiplyDimensions relations a b : Except (Fault α) Dimension) = .ok p) :
    (multiplyDimensions relations b a : Except (Fault α) Dimension) = .ok p := by
  rw [multiplyDimensions_eq_ok_iff] at h ⊢
  rw [products_comm, h]

/-- A resolved product is the product of a relation with the two factors. -/
theorem exists_of_multiplyDimensions
    (h : (multiplyDimensions relations a b : Except (Fault α) Dimension) = .ok p) :
    ∃ r ∈ relations, r.hasFactors a b ∧ r.product = p := by
  rw [multiplyDimensions_eq_ok_iff] at h
  have hp : p ∈ products relations a b := by rw [h]; exact List.mem_singleton_self p
  obtain ⟨r, hr, rfl⟩ := List.mem_map.mp hp
  rw [List.mem_filter] at hr
  exact ⟨r, hr.1, hr.2, rfl⟩

/-- A resolved quotient is the factor that a relation with the product pairs with the divisor. -/
theorem exists_of_divideDimensions
    (h : (divideDimensions relations n d : Except (Fault α) Dimension) = .ok c) :
    ∃ r ∈ relations, r.product = n ∧ r.hasFactors c d := by
  rw [divideDimensions_eq_ok_iff] at h
  have hc : c ∈ cofactors relations n d := by rw [h]; exact List.mem_singleton_self c
  obtain ⟨r, hr, rfl⟩ := List.mem_map.mp hc
  simp only [List.mem_filter, Bool.and_eq_true, beq_iff_eq] at hr
  exact ⟨r, hr.1, hr.2.1, Relation.hasFactors_otherFactor hr.2.2⟩

end Resolution

namespace Exponents

lemma mul_comm (a b : Exponents) : a.mul b = b.mul a := by
  simp [mul, Int.add_comm]

lemma mul_assoc (a b c : Exponents) : (a.mul b).mul c = a.mul (b.mul c) := by
  simp [mul, Int.add_assoc]

lemma mul_div (a b : Exponents) : (a.mul b).div b = a := by
  simp [mul, div]

@[simp] lemma none_mul (a : Exponents) : none.mul a = a := by
  simp [none, mul]

@[simp] lemma mul_none (a : Exponents) : a.mul none = a := by
  simp [none, mul]

@[simp] lemma div_none (a : Exponents) : a.div none = a := by
  simp [none, div]

end Exponents

namespace Dimension

/-- One of two dimensions is energy and the other moment. -/
def AreEnergyAndMoment (a b : Dimension) : Prop :=
  (a = energy ∧ b = moment) ∨ (a = moment ∧ b = energy)

instance (a b : Dimension) : Decidable (AreEnergyAndMoment a b) :=
  inferInstanceAs (Decidable (_ ∨ _))

/-- Exponents tell all dimensions apart but energy and moment. -/
theorem exponents_eq_iff {a b : Dimension} :
    a.exponents = b.exponents ↔ a = b ∨ AreEnergyAndMoment a b := by
  have hall : ∀ a ∈ all, ∀ b ∈ all,
      a.exponents = b.exponents ↔ a = b ∨ AreEnergyAndMoment a b := by decide
  exact hall a (mem_all a) b (mem_all b)

end Dimension

namespace Standard

variable {α : Type} {a b c d n p : Dimension}

lemma balanced_of_mem : ∀ r ∈ relations, r.Balanced := by
  decide

lemma products_of_mem : ∀ r ∈ relations, products relations r.left r.right = [r.product] := by
  decide

lemma cofactors_of_mem : ∀ r ∈ relations,
    cofactors relations r.product r.left = [r.right] ∧
      cofactors relations r.product r.right = [r.left] := by
  decide

lemma no_temperature_of_mem : ∀ r ∈ relations, r.hasFactor .temperature = false := by
  decide

lemma exponents_of_hasFactors {r : Relation} (hr : r ∈ relations) (h : r.hasFactors a b) :
    r.product.exponents = a.exponents.mul b.exponents := by
  rw [balanced_of_mem r hr]
  rcases Relation.hasFactors_iff.mp h with ⟨rfl, rfl⟩ | ⟨rfl, rfl⟩
  · rfl
  · exact Exponents.mul_comm _ _

/-- The exponents of a product of dimensions are those of the factors together. -/
theorem exponents_of_multiplyDimensions
    (h : (multiplyDimensions relations a b : Except (Fault α) Dimension) = .ok p) :
    p.exponents = a.exponents.mul b.exponents := by
  obtain ⟨r, hr, hab, rfl⟩ := exists_of_multiplyDimensions h
  exact exponents_of_hasFactors hr hab

/-- The exponents of a quotient of dimensions are those of the numerator less the divisor's. -/
theorem exponents_of_divideDimensions
    (h : (divideDimensions relations n d : Except (Fault α) Dimension) = .ok c) :
    c.exponents = n.exponents.div d.exponents := by
  obtain ⟨r, hr, rfl, hcd⟩ := exists_of_divideDimensions h
  rw [exponents_of_hasFactors hr hcd, Exponents.mul_div]

/-- Temperatures are a factor of no product. -/
lemma ne_temperature_of_multiplyDimensions
    (h : (multiplyDimensions relations a b : Except (Fault α) Dimension) = .ok p) :
    b ≠ .temperature := by
  obtain ⟨r, hr, hab, -⟩ := exists_of_multiplyDimensions h
  rintro rfl
  have hf : r.hasFactor .temperature := by
    rw [Relation.hasFactor_iff]
    rcases Relation.hasFactors_iff.mp hab with ⟨-, h⟩ | ⟨h, -⟩
    · exact Or.inr h.symm
    · exact Or.inl h.symm
  simp [no_temperature_of_mem r hr] at hf

/-- In the standard list a product can be divided again by either factor. -/
theorem divideDimensions_of_multiplyDimensions
    (h : (multiplyDimensions relations a b : Except (Fault α) Dimension) = .ok p) :
    (divideDimensions relations p b : Except (Fault α) Dimension) = .ok a := by
  obtain ⟨r, hr, hab, rfl⟩ := exists_of_multiplyDimensions h
  obtain ⟨hleft, hright⟩ := cofactors_of_mem r hr
  rw [divideDimensions_eq_ok_iff]
  rcases Relation.hasFactors_iff.mp hab with ⟨rfl, rfl⟩ | ⟨rfl, rfl⟩
  · exact hright
  · exact hleft

/-- In the standard list a quotient can be multiplied again by the divisor. -/
theorem multiplyDimensions_of_divideDimensions
    (h : (divideDimensions relations n d : Except (Fault α) Dimension) = .ok c) :
    (multiplyDimensions relations c d : Except (Fault α) Dimension) = .ok n := by
  obtain ⟨r, hr, rfl, hcd⟩ := exists_of_divideDimensions h
  rw [multiplyDimensions_eq_ok_iff]
  rcases Relation.hasFactors_iff.mp hcd with ⟨rfl, rfl⟩ | ⟨rfl, rfl⟩
  · exact products_of_mem r hr
  · rw [products_comm]
    exact products_of_mem r hr

end Standard

end FlightUnits
