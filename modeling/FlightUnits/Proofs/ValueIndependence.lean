import FlightUnits.Proofs.Expression

/-!
# Units do not depend on values

Whatever an expression evaluates to on the machine has the unit that the units of its leaves give
it, and unless it fails numerically it fails where and as these units say. So two assignments of
values to the leaves agree in the unit of the result, or in the node and the kind of the failure.
-/

namespace FlightUnits

open Standard Interpretation

/--
The machine comes to what the units say: to a result with the unit found, or to a failure of the
kind found at the same node, unless it fails numerically.
-/
def Follows : Except (Node × Failure) Value →
    Except (Node × Option FaultKind) (Option MeasureUnit) → Prop
  | .ok v, s => ∃ a, v = .ofOperand a ∧ s = .ok a.unit?
  | .error (n, f), s => f.isNumeric ∨ s = .error (n, f.kind?)

/-- Whether an evaluation fails by a division by zero or an overflow. -/
def failsNumerically : Except (Node × Failure) Value → Bool
  | .ok _ => false
  | .error (_, f) => f.isNumeric

namespace Follows

lemma bind {r : Except (Node × Failure) Value}
    {s : Except (Node × Option FaultKind) (Option MeasureUnit)}
    {f : Value → Except (Node × Failure) Value}
    {g : Option MeasureUnit → Except (Node × Option FaultKind) (Option MeasureUnit)}
    (h : Follows r s) (hf : ∀ a, Follows (f (.ofOperand a)) (g a.unit?)) :
    Follows (r >>= f) (s >>= g) := by
  cases r with
  | ok v =>
    obtain ⟨a, rfl, rfl⟩ := h
    exact hf a
  | error e =>
    rcases h with h | rfl
    · exact Or.inl h
    · exact Or.inr rfl

lemma fault {n : Node} {f : Fault Number} {s : Except (Option FaultKind) (Option MeasureUnit)}
    (h : s = .error (some f.kind) ∨ f.kind.isNumeric) :
    Follows (located n (.error (.fault f))) (located n s) := by
  rcases h with rfl | h
  · exact Or.inr rfl
  · exact Or.inl h

section Numeric

variable {r : Except (Node × Failure) Value} {n : Node} {k : Option FaultKind}
  {w : Option MeasureUnit} (hr : ¬ failsNumerically r)

include hr

lemma eq_ok (h : Follows r (.ok w)) : ∃ a, r = .ok (.ofOperand a) ∧ a.unit? = w := by
  rcases r with ⟨m, f⟩ | v
  · rcases h with hf | h
    · exact absurd hf hr
    · exact nomatch h
  · obtain ⟨a, rfl, h⟩ := h
    exact ⟨a, rfl, (Except.ok.inj h).symm⟩

lemma eq_error (h : Follows r (.error (n, k))) : ∃ f, r = .error (n, f) ∧ f.kind? = k := by
  rcases r with ⟨m, f⟩ | v
  · rcases h with hf | h
    · exact absurd hf hr
    · obtain ⟨rfl, rfl⟩ := Prod.mk.inj (Except.error.inj h)
      exact ⟨f, rfl, rfl⟩
  · obtain ⟨a, -, h⟩ := h
    exact nomatch h

end Numeric

end Follows

/-! ### Single operations -/

namespace Standard

/-- The unit in which an operation on quantities in the units `u` and `v` has its result. -/
def ResultsIn (symbol : Symbol) (u v w : MeasureUnit) : Prop :=
  match symbol with
  | .plus | .minus => w = u
  | .times => ∃ d, multiplyDimensions (α := Number) relations (dimension u) (dimension v) = .ok d ∧
      machineTables.units.baseUnitOf d = .ok w
  | .slash => ∃ d, divideDimensions (α := Number) relations (dimension u) (dimension v) = .ok d ∧
      machineTables.units.baseUnitOf d = .ok w

lemma relatedUnit_eq_ok {found : List Dimension} {w : MeasureUnit}
    (h : relatedUnit found = .ok (some w)) :
    ∃ d, found = [d] ∧ machineTables.units.baseUnitOf d = .ok w := by
  unfold relatedUnit at h
  split at h
  next d =>
    refine ⟨d, rfl, ?_⟩
    rw [machineTables, units_tables, baseUnitOf_units, Option.some.inj (Except.ok.inj h)]
  next => exact nomatch h

lemma resultsIn_of_resultUnit {symbol : Symbol} {u v w : MeasureUnit}
    (h : resultUnit symbol (some u) (some v) = .ok (some w)) : ResultsIn symbol u v w := by
  have hsum (h : combinedUnit (some u) (some v) = .ok (some w)) : w = u := by
    unfold combinedUnit at h
    dsimp only at h
    split at h
    · exact (Option.some.inj (Except.ok.inj h)).symm
    · exact nomatch h
  cases symbol with
  | plus => exact hsum h
  | minus => exact hsum h
  | times =>
    obtain ⟨d, hd, hw⟩ := relatedUnit_eq_ok h
    exact ⟨d, multiplyDimensions_eq_ok_iff.mpr hd, hw⟩
  | slash =>
    obtain ⟨d, hd, hw⟩ := relatedUnit_eq_ok h
    exact ⟨d, divideDimensions_eq_ok_iff.mpr hd, hw⟩

end Standard

section Operations

variable (n : Node) (a b : Operand Number)

@[simp] lemma checked_ofOperand (symbol : Symbol) :
    Value.checked symbol (.ofOperand a) = .ok a := by
  cases a <;> rfl

lemma combine_ofOperand (symbol : Symbol) :
    Value.combine machineTables symbol (.ofOperand a) (.ofOperand b) =
      ((Operand.apply tables symbol a b).mapError .fault).map .ofOperand := by
  rw [Value.combine, checked_ofOperand, checked_ofOperand, ok_bind, ok_bind, machineTables]
  cases Operand.apply tables symbol a b <;> rfl

lemma convert_quantity (q : Quantity Number) (u : MeasureUnit) :
    Script.convert machineTables.units (.quantity q) (.unit u) =
      ((q.convert Standard.units u).mapError .fault).map .quantity := by
  have hblame : Script.blame (.unit u) = .fault := by
    funext f
    cases f <;> simp [Script.blame, Value.isWritable]
  simp only [Script.convert, Script.measured, ok_bind, hblame, Quantity.convertTo, machineTables,
    units_tables, lookup_units, Value.unitTag, UnitTag.resolve]
  cases q.convert Standard.units u <;> rfl

lemma follows_combine (symbol : Symbol) :
    Follows (located n (machine.combine symbol (.ofOperand a) (.ofOperand b)))
      (located n ((units Unit).combine symbol a.unit? b.unit?)) := by
  change Follows (located n (Value.combine _ _ _ _)) (located n ((resultUnit _ _ _).mapError some))
  rw [combine_ofOperand]
  cases h : Operand.apply tables symbol a b with
  | ok r =>
    rw [Operand.apply_eq_ok h]
    exact ⟨r, rfl, rfl⟩
  | error f =>
    refine Follows.fault ((Operand.apply_eq_error h).imp_left fun hr => ?_)
    rw [hr]
    rfl

lemma follows_negate :
    Follows (located n (machine.negate (.ofOperand a))) (located n (.ok a.unit?)) := by
  change Follows (located n (Value.negate _)) _
  rw [Value.negate, checked_ofOperand, ← Operand.unit?_negate]
  exact ⟨a.negate, rfl, rfl⟩

lemma follows_positive :
    Follows (located n (machine.positive (.ofOperand a))) (located n (.ok a.unit?)) := by
  change Follows (located n (Value.positive _)) _
  rw [Value.positive, checked_ofOperand]
  exact ⟨a, rfl, rfl⟩

lemma follows_convert (u : MeasureUnit) :
    Follows (located n (machine.convert u (.ofOperand a)))
      (located n (convertedUnit u a.unit?)) := by
  change Follows (located n (Script.convert _ _ _)) _
  cases a with
  | number x => exact Or.inr rfl
  | quantity q =>
    rw [Value.ofOperand, convert_quantity]
    cases h : q.convert Standard.units u with
    | ok r =>
      obtain ⟨hu, hd⟩ := convert_eq_ok h
      refine ⟨.quantity r, rfl, ?_⟩
      simp only [Operand.unit?, convertedUnit, if_pos hd, hu]
      rfl
    | error f =>
      apply Follows.fault
      rcases convert_eq_error h with ⟨hd, rfl⟩ | hf
      · exact Or.inl (if_neg hd)
      · exact Or.inr hf

end Operations

namespace Expression

variable {ι : Type}

/-! ### Whole expressions -/

/-- An expression on the machine comes to what its units say. -/
theorem evaluate_follows (e : Expression Number) (n : Node) :
    Follows (e.evaluate machine n) (e.evaluate (units Number) n) := by
  induction e generalizing n with
  | leaf x => exact ⟨x, rfl, rfl⟩
  | combine symbol a b iha ihb =>
    refine (iha _).bind fun x => ?_
    refine (ihb _).bind fun y => ?_
    exact follows_combine n x y symbol
  | negate a ih => exact (ih _).bind (follows_negate n)
  | positive a ih => exact (ih _).bind (follows_positive n)
  | convert a target ih => exact (ih _).bind fun x => follows_convert n x target

lemma evaluate_units_map (ρ : ι → Number) (e : Expression ι) (n : Node) :
    (e.map ρ).evaluate (units Number) n = e.evaluate (units ι) n := by
  induction e generalizing n with
  | leaf x => cases x <;> rfl
  | combine symbol a b iha ihb => simp only [map, evaluate, iha, ihb]; rfl
  | negate a ih => simp only [map, evaluate, ih]; rfl
  | positive a ih => simp only [map, evaluate, ih]; rfl
  | convert a target ih => simp only [map, evaluate, ih]; rfl

/-- A result has a unit when the expression has a leaf with one. -/
lemma isSome_evaluate_units {e : Expression ι} {n : Node} {w : Option MeasureUnit}
    (h : e.evaluate (units ι) n = .ok w) : w.isSome = e.isQuantity := by
  induction e generalizing n w with
  | leaf x => exact Except.ok.inj h ▸ rfl
  | combine symbol a b iha ihb =>
    obtain ⟨u, hu, h⟩ := bind_eq_ok_iff.mp h
    obtain ⟨v, hv, h⟩ := bind_eq_ok_iff.mp h
    rw [isQuantity, ← iha hu, ← ihb hv]
    exact isSome_resultUnit (mapError_eq_ok_iff.mp (mapError_eq_ok_iff.mp h))
  | negate a ih =>
    obtain ⟨u, hu, h⟩ := bind_eq_ok_iff.mp h
    exact Except.ok.inj h ▸ ih hu
  | positive a ih =>
    obtain ⟨u, hu, h⟩ := bind_eq_ok_iff.mp h
    exact Except.ok.inj h ▸ ih hu
  | convert a target ih =>
    obtain ⟨u, hu, h⟩ := bind_eq_ok_iff.mp h
    obtain ⟨hs, rfl⟩ := convertedUnit_eq_ok (mapError_eq_ok_iff.mp h)
    rw [isQuantity, ← ih hu, hs, Option.isSome_some]

/-- Where only quantities are converted, all failures are of the kinds that units decide. -/
lemma evaluate_units_error {e : Expression ι} (he : e.ConvertsQuantities) {n m : Node}
    {k : Option FaultKind} (h : e.evaluate (units ι) n = .error (m, k)) :
    ∃ l ∈ decidedByUnits, k = some l := by
  induction e generalizing n with
  | leaf x => exact nomatch h
  | combine symbol a b iha ihb =>
    rcases bind_eq_error_iff.mp h with h | ⟨u, -, h⟩
    · exact iha he.1 h
    rcases bind_eq_error_iff.mp h with h | ⟨v, -, h⟩
    · exact ihb he.2 h
    obtain ⟨k', hk, hm⟩ := mapError_eq_error_iff.mp h
    obtain ⟨l, hl, rfl⟩ := mapError_eq_error_iff.mp hk
    exact ⟨l, resultUnit_error hl, (Prod.mk.inj hm).2.symm⟩
  | negate a ih =>
    rcases bind_eq_error_iff.mp h with h | ⟨u, -, h⟩
    · exact ih he h
    · exact nomatch h
  | positive a ih =>
    rcases bind_eq_error_iff.mp h with h | ⟨u, -, h⟩
    · exact ih he h
    · exact nomatch h
  | convert a target ih =>
    rcases bind_eq_error_iff.mp h with h | ⟨u, hu, h⟩
    · exact ih he.1 h
    obtain ⟨k', hk, hm⟩ := mapError_eq_error_iff.mp h
    have hs : u.isSome := by rw [isSome_evaluate_units hu, he.2]
    refine ⟨.dimensionMismatch, by decide, ?_⟩
    rw [← (Prod.mk.inj hm).2, convertedUnit_error hs hk]

/-- What an expression comes to on the machine under an assignment of values to its leaves. -/
def run (ρ : ι → Number) (e : Expression ι) : Except (Node × Failure) Value :=
  (e.map ρ).evaluate machine []

lemma run_follows (ρ : ι → Number) (e : Expression ι) :
    Follows (e.run ρ) (e.evaluate (units ι) []) := by
  rw [← evaluate_units_map ρ]
  exact evaluate_follows (e.map ρ) []

/-- A node over two quantities comes to a quantity in the unit that the operation gives. -/
lemma evaluate_combine_quantities {symbol : Symbol} {a b : Expression Number} {n : Node}
    {p q : Quantity Number} {v : Value} (ha : a.evaluate machine (.left :: n) = .ok (.quantity p))
    (hb : b.evaluate machine (.right :: n) = .ok (.quantity q))
    (h : (combine symbol a b).evaluate machine n = .ok v) :
    ∃ r, v = .quantity r ∧ ResultsIn symbol p.unit q.unit r.unit := by
  rw [evaluate, ha, hb] at h
  have hv : Value.combine machineTables symbol (.ofOperand (.quantity p))
      (.ofOperand (.quantity q)) = .ok v := mapError_eq_ok_iff.mp h
  rw [combine_ofOperand] at hv
  cases hr : Operand.apply tables symbol (.quantity p) (.quantity q) with
  | error f =>
    rw [hr] at hv
    exact nomatch hv
  | ok r =>
    rw [hr] at hv
    have hunit := Operand.apply_eq_ok hr
    cases r with
    | number x => exact nomatch isSome_resultUnit hunit
    | quantity r => exact ⟨r, (Except.ok.inj hv).symm, resultsIn_of_resultUnit hunit⟩

/-- An area of a sum of metres and feet and of feet converted to metres. -/
def areaOfLengths : Expression Nat :=
  combine .times
    (combine .plus (leaf (.quantity ⟨0, .metre⟩)) (leaf (.quantity ⟨1, .foot⟩)))
    (convert (leaf (.quantity ⟨2, .foot⟩)) .metre)

end Expression

end FlightUnits
