import FlightUnits.Proofs.DimensionAlgebra
import Mathlib.Data.List.Perm.Basic
import Mathlib.Data.Sym.Sym2

/-!
# Lists of relations that pass the check

`checkRelations` counts how often each unordered pair of factors occurs. It accepts a list exactly
when no product of dimensions is ambiguous, and names a pair whose product is ambiguous otherwise.
A quotient is looked up by the product and one factor of a relation, which are not what the check
counts: in a list that passes, a quotient may still be ambiguous, and is so exactly when relations
with one product share the divisor.
-/

namespace FlightUnits

namespace Relation

variable {r s : Relation} {a b d : Dimension}

/-- The factors of a relation, in no order. -/
def factors (r : Relation) : Sym2 Dimension := s(r.left, r.right)

lemma hasFactors_iff_factors_eq : r.hasFactors a b ↔ r.factors = s(a, b) := by
  rw [hasFactors_iff, factors, Sym2.eq_iff]

lemma hasFactors_left_right (r : Relation) : r.hasFactors r.left r.right := by
  rw [hasFactors_iff_factors_eq, factors]

lemma hasFactor_left (r : Relation) : r.hasFactor r.left := by
  simp [hasFactor]

lemma hasFactor_right (r : Relation) : r.hasFactor r.right := by
  simp [hasFactor]

lemma otherFactor_left (r : Relation) : r.otherFactor r.left = r.right := by
  rw [otherFactor, if_pos rfl]

lemma otherFactor_right (r : Relation) : r.otherFactor r.right = r.left := by
  rw [otherFactor]
  split
  next h => exact h
  next => rfl

end Relation

section Check

variable {α : Type} {relations : List Relation} {r : Relation} {a b d n x : Dimension}

/-! ### Products -/

lemma length_products (relations : List Relation) (a b : Dimension) :
    (products relations a b).length = (relations.map Relation.factors).count s(a, b) := by
  rw [products, List.length_map, List.count, List.countP_map, List.countP_eq_length_filter]
  congr 2
  funext r
  rw [Bool.eq_iff_iff, Relation.hasFactors_iff_factors_eq, Function.comp_apply, beq_iff_eq]

lemma factorCount_eq (relations : List Relation) (r : Relation) :
    factorCount relations r = (products relations r.left r.right).length := by
  rw [factorCount, products, List.length_map, List.countP_eq_length_filter]

/-- The check looks at pairs of factors that occur in the list; the others have no product. -/
lemma checkRelations_eq_ok_iff :
    checkRelations (α := α) relations = .ok () ↔
      ∀ a b, (products relations a b).length ≤ 1 := by
  have hcheck : checkRelations (α := α) relations = .ok () ↔
      ∀ r ∈ relations, (products relations r.left r.right).length ≤ 1 := by
    have hnone := List.find?_eq_none (l := relations)
      (p := fun r => decide (1 < factorCount relations r))
    simp only [decide_eq_true_eq, not_lt, factorCount_eq] at hnone
    rw [← hnone]
    unfold checkRelations
    simp only [factorCount_eq]
    split <;> simp_all
  rw [hcheck]
  constructor
  · intro h a b
    by_contra hmany
    have hmem : s(a, b) ∈ relations.map Relation.factors := by
      rw [← List.count_pos_iff, ← length_products]
      omega
    obtain ⟨r, hr, hab⟩ := List.mem_map.mp hmem
    have hle := h r hr
    rw [length_products] at hle hmany
    rw [← hab, Relation.factors] at hmany
    exact hmany hle
  · intro h r _
    exact h r.left r.right

lemma nodup_of_checkRelations (h : checkRelations (α := α) relations = .ok ()) :
    relations.Nodup := by
  have hfactors : (relations.map Relation.factors).Nodup := by
    rw [List.nodup_iff_count_le_one]
    intro pair
    induction pair using Sym2.ind with
    | _ a b =>
      rw [← length_products]
      exact checkRelations_eq_ok_iff.mp h a b
  exact hfactors.of_map

lemma multiplyDimensions_of_hasFactors
    (h : checkRelations (α := α) relations = .ok ()) (hr : r ∈ relations)
    (hab : r.hasFactors a b) :
    multiplyDimensions (α := α) relations a b = .ok r.product := by
  have hmem : r.product ∈ products relations a b :=
    List.mem_map_of_mem (List.mem_filter.mpr ⟨hr, hab⟩)
  have hone : (products relations a b).length = 1 := by
    have hle := checkRelations_eq_ok_iff.mp h a b
    have hpos := List.length_pos_of_mem hmem
    omega
  obtain ⟨p, hp⟩ := List.length_eq_one_iff.mp hone
  rw [hp, List.mem_singleton] at hmem
  rw [multiplyDimensions_eq_ok_iff, hp, hmem]

lemma multiplyDimensions_eq_error (h : 1 < (products relations a b).length) :
    multiplyDimensions (α := α) relations a b =
      .error (.unresolvedDimension .times a b (products relations a b).length) := by
  unfold multiplyDimensions
  split
  next hp =>
    rw [hp] at h
    exact absurd h (lt_irrefl 1)
  next => rfl

/-- A list is refused for a pair of factors whose product is ambiguous, in either order. -/
lemma checkRelations_eq_error {f : Fault α} (h : checkRelations relations = .error f) :
    ∃ a b count, f = .table (.repeatedFactors a b count) ∧ 2 ≤ count ∧
      multiplyDimensions (α := α) relations a b =
        .error (.unresolvedDimension .times a b count) ∧
      multiplyDimensions (α := α) relations b a =
        .error (.unresolvedDimension .times b a count) := by
  unfold checkRelations at h
  split at h
  next r hr =>
    have hmany := List.find?_some hr
    rw [decide_eq_true_eq, factorCount_eq] at hmany
    refine ⟨r.left, r.right, factorCount relations r, (Except.error.inj h).symm, ?_, ?_, ?_⟩
    · rw [factorCount_eq]
      exact hmany
    · rw [factorCount_eq]
      exact multiplyDimensions_eq_error hmany
    · rw [factorCount_eq, products_comm]
      rw [products_comm] at hmany
      exact multiplyDimensions_eq_error hmany
  next => exact nomatch h

/--
The check decides whether products are unambiguous: it accepts a list when no two dimensions have
several products. In a list that it accepts every relation is resolved in both orders of its
factors, and a quotient times the divisor is the dividend again. It refuses a list by naming factors
whose product is ambiguous.
-/
theorem checkRelations_decides_products (relations : List Relation) :
    (checkRelations (α := α) relations = .ok () ↔ ∀ a b, (products relations a b).length ≤ 1) ∧
    (checkRelations (α := α) relations = .ok () →
      (∀ r ∈ relations,
        multiplyDimensions (α := α) relations r.left r.right = .ok r.product ∧
        multiplyDimensions (α := α) relations r.right r.left = .ok r.product) ∧
      ∀ n d x, divideDimensions (α := α) relations n d = .ok x →
        multiplyDimensions (α := α) relations x d = .ok n) ∧
    (∀ f : Fault α, checkRelations relations = .error f →
      ∃ a b count, f = .table (.repeatedFactors a b count) ∧ 2 ≤ count ∧
        multiplyDimensions (α := α) relations a b =
          .error (.unresolvedDimension .times a b count) ∧
        multiplyDimensions (α := α) relations b a =
          .error (.unresolvedDimension .times b a count)) := by
  refine ⟨checkRelations_eq_ok_iff, fun h => ⟨fun r hr => ⟨?_, ?_⟩, fun n d x hx => ?_⟩,
    fun f hf => checkRelations_eq_error hf⟩
  · exact multiplyDimensions_of_hasFactors h hr r.hasFactors_left_right
  · have hswap := r.hasFactors_left_right
    rw [Relation.hasFactors_comm] at hswap
    exact multiplyDimensions_of_hasFactors h hr hswap
  · obtain ⟨r, hr, rfl, hxd⟩ := exists_of_divideDimensions hx
    exact multiplyDimensions_of_hasFactors h hr hxd

/-- The standard list passes; with an energy as a product of force and length it does not. -/
theorem checkRelations_decides_products_standard :
    multiplyDimensions (α := Number) Standard.relations .time .velocity = .ok .length ∧
    multiplyDimensions (α := Number) Standard.relations .velocity .time = .ok .length ∧
    ∃ a b count, 2 ≤ count ∧
      multiplyDimensions (α := Number) (Standard.relations ++ [⟨.energy, .force, .length⟩]) a b =
        .error (.unresolvedDimension .times a b count) := by
  obtain ⟨-, hpass, -⟩ := checkRelations_decides_products (α := Number) Standard.relations
  obtain ⟨hproducts, hquotients⟩ := hpass (by decide)
  obtain ⟨-, -, hrefuse⟩ := checkRelations_decides_products (α := Number)
    (Standard.relations ++ [⟨.energy, .force, .length⟩])
  obtain ⟨a, b, count, -, hcount, hab, -⟩ :=
    hrefuse (.table (.repeatedFactors .length .force 2)) (by decide)
  exact ⟨hquotients .length .velocity .time (by decide),
    (hproducts ⟨.length, .velocity, .time⟩ (by decide)).1, a, b, count, hcount, hab⟩

/-! ### Quotients -/

lemma otherFactor_mem_cofactors (hr : r ∈ relations) (hd : r.hasFactor d) :
    r.otherFactor d ∈ cofactors relations r.product d := by
  refine List.mem_map_of_mem (List.mem_filter.mpr ⟨hr, ?_⟩)
  rw [beq_self_eq_true, Bool.true_and]
  exact hd

/-- No other relation of the list has the product of `r` and the factor `d`. -/
def Relation.IsSole (relations : List Relation) (r : Relation) (d : Dimension) : Prop :=
  ∀ s ∈ relations, s.product = r.product → s.hasFactor d → s = r

instance (relations : List Relation) (r : Relation) (d : Dimension) :
    Decidable (r.IsSole relations d) :=
  inferInstanceAs (Decidable (∀ s ∈ relations, s.product = r.product → s.hasFactor d → s = r))

lemma cofactors_of_isSole (hnodup : relations.Nodup) (hr : r ∈ relations) (hd : r.hasFactor d)
    (hsole : r.IsSole relations d) : cofactors relations r.product d = [r.otherFactor d] := by
  have hfound : (relations.filter fun s => s.product == r.product && s.hasFactor d) = [r] := by
    rw [← List.perm_singleton,
      List.perm_ext_iff_of_nodup (hnodup.filter _) (List.nodup_singleton r)]
    intro s
    simp only [List.mem_filter, Bool.and_eq_true, beq_iff_eq, List.mem_singleton]
    constructor
    · rintro ⟨hs, hproduct, hfactor⟩
      exact hsole s hs hproduct hfactor
    · rintro rfl
      exact ⟨hr, rfl, hd⟩
  rw [cofactors, hfound, List.map_singleton]

lemma isSole_of_length_cofactors (hr : r ∈ relations) (hd : r.hasFactor d)
    (h : (cofactors relations r.product d).length = 1) : r.IsSole relations d := by
  intro s hs hproduct hfactor
  rw [cofactors, List.length_map] at h
  obtain ⟨u, hu⟩ := List.length_eq_one_iff.mp h
  have hsole : ∀ v ∈ relations, v.product = r.product → v.hasFactor d → v = u := by
    intro v hv hvp hvd
    have hmem : v ∈ relations.filter fun s => s.product == r.product && s.hasFactor d := by
      simp only [List.mem_filter, Bool.and_eq_true, beq_iff_eq]
      exact ⟨hv, hvp, hvd⟩
    rw [hu] at hmem
    exact List.mem_singleton.mp hmem
  rw [hsole s hs hproduct hfactor, hsole r hr rfl hd]

lemma divideDimensions_eq_ok_iff_isSole (hnodup : relations.Nodup) (hr : r ∈ relations)
    (hd : r.hasFactor d) :
    divideDimensions (α := α) relations r.product d = .ok (r.otherFactor d) ↔
      r.IsSole relations d := by
  rw [divideDimensions_eq_ok_iff]
  constructor
  · intro h
    exact isSole_of_length_cofactors hr hd (by rw [h, List.length_singleton])
  · exact cofactors_of_isSole hnodup hr hd

/-- A relation is among those looked up, so a quotient that is not resolved has several of them. -/
lemma divideDimensions_of_not_isSole (hr : r ∈ relations) (hd : r.hasFactor d)
    (h : ¬ r.IsSole relations d) :
    2 ≤ (cofactors relations r.product d).length ∧
      divideDimensions (α := α) relations r.product d =
        .error (.unresolvedDimension .slash r.product d
          (cofactors relations r.product d).length) := by
  have hpos := List.length_pos_of_mem (otherFactor_mem_cofactors hr hd)
  have hne : (cofactors relations r.product d).length ≠ 1 := by
    intro hone
    exact h (isSole_of_length_cofactors hr hd hone)
  refine ⟨by omega, ?_⟩
  unfold divideDimensions
  split
  next c hc => exact absurd (by rw [hc, List.length_singleton]) hne
  next => rfl

end Check

/--
The standard relations, and one that takes a momentum for a force: a force has two quotients by a
mass then.
-/
def Standard.relationsWithMomentum : List Relation :=
  relations ++ [⟨.force, .mass, .velocity⟩]

/-- Passing the check does not make quotients unambiguous. -/
theorem not_divideDimensions_of_checkRelations :
    ¬ ∀ relations : List Relation, checkRelations (α := Number) relations = .ok () →
      ∀ r ∈ relations,
        divideDimensions (α := Number) relations r.product r.left = .ok r.right ∧
        divideDimensions (α := Number) relations r.product r.right = .ok r.left := by
  intro h
  have hforce := (h Standard.relationsWithMomentum (by decide) ⟨.force, .mass, .acceleration⟩
    (by decide)).1
  have hambiguous : divideDimensions (α := Number) Standard.relationsWithMomentum .force .mass =
      .error (.unresolvedDimension .slash .force .mass 2) := by decide
  exact nomatch hambiguous.symm.trans hforce

/--
In a list that passes the check, the product of a relation divided by one factor is the other when
no other relation has the product and the divisor. Otherwise the quotient is refused, with the
number of relations that have them.
-/
theorem divideDimensions_of_check_iff {α : Type} {relations : List Relation} {r : Relation}
    (h : checkRelations (α := α) relations = .ok ()) (hr : r ∈ relations) :
    (divideDimensions (α := α) relations r.product r.left = .ok r.right ↔
      r.IsSole relations r.left) ∧
    (divideDimensions (α := α) relations r.product r.right = .ok r.left ↔
      r.IsSole relations r.right) ∧
    ∀ d, r.hasFactor d → ¬ r.IsSole relations d →
      2 ≤ (cofactors relations r.product d).length ∧
      divideDimensions (α := α) relations r.product d =
        .error (.unresolvedDimension .slash r.product d
          (cofactors relations r.product d).length) := by
  have hnodup := nodup_of_checkRelations h
  have hleft := divideDimensions_eq_ok_iff_isSole (α := α) hnodup hr r.hasFactor_left
  have hright := divideDimensions_eq_ok_iff_isSole (α := α) hnodup hr r.hasFactor_right
  rw [Relation.otherFactor_left] at hleft
  rw [Relation.otherFactor_right] at hright
  exact ⟨hleft, hright, fun d hd hsole => divideDimensions_of_not_isSole hr hd hsole⟩

/-- A force divided by an acceleration, and not by a mass. -/
theorem divideDimensions_of_check_iff_momentum :
    divideDimensions (α := Number) Standard.relationsWithMomentum .force .acceleration =
      .ok .mass ∧
    divideDimensions (α := Number) Standard.relationsWithMomentum .force .mass =
      .error (.unresolvedDimension .slash .force .mass 2) := by
  have hpass : checkRelations (α := Number) Standard.relationsWithMomentum = .ok () := by decide
  have hforce : ⟨.force, .mass, .acceleration⟩ ∈ Standard.relationsWithMomentum := by decide
  obtain ⟨-, hacceleration, hshared⟩ := divideDimensions_of_check_iff hpass hforce
  have hsole : Relation.IsSole Standard.relationsWithMomentum ⟨.force, .mass, .acceleration⟩
      .acceleration := by decide
  have hmany : ¬ Relation.IsSole Standard.relationsWithMomentum ⟨.force, .mass, .acceleration⟩
      .mass := by decide
  exact ⟨hacceleration.mpr hsole, (hshared .mass rfl hmany).2⟩

end FlightUnits
