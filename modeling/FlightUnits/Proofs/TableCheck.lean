import FlightUnits.Arithmetic
import FlightUnits.Listing
import FlightUnits.Proofs.DimensionAlgebra

/-!
# Unit tables that pass the check

`UnitTable.check` makes one pass over the units and one over the dimensions. It accepts a table
exactly when every unit has an entry and every dimension a base unit, which are the only things that
conversions, operations and listings ask of a table. So with a table that passes none of them fails
for want of an entry or of a base unit, whatever the relations are.
-/

namespace FlightUnits

/-- The kinds of faults that lie in the tables. -/
def FaultKind.concernsTables : FaultKind → Bool
  | .unknownUnit | .table => true
  | _ => false

/-- A step never fails for the tables. -/
abbrev SparesTables {α β : Type} (s : Except (Fault α) β) : Prop :=
  Ends (fun _ => True) (fun f => ¬ f.kind.concernsTables) s

section Check

variable {α : Type} {t : UnitTable α}

lemma lookup_eq_ok_iff {u : MeasureUnit} {role : String} {entry : Descriptor α} :
    t.lookup u role = .ok entry ↔ t.find? u = some entry := by
  unfold UnitTable.lookup
  cases t.find? u <;> simp

lemma exists_lookup_iff {u : MeasureUnit} {role : String} :
    (∃ entry, t.lookup u role = .ok entry) ↔ (t.find? u).isSome := by
  simp only [lookup_eq_ok_iff, Option.isSome_iff_exists]

lemma missing_eq_nil_iff :
    (MeasureUnit.all.filter fun u => (t.find? u).isNone) = [] ↔ ∀ u, (t.find? u).isSome := by
  rw [List.filter_eq_nil_iff]
  constructor
  · intro h u
    have hu := h u u.mem_all
    rw [Option.isNone_iff_eq_none] at hu
    exact Option.isSome_iff_ne_none.mpr hu
  · intro h u _
    rw [Option.isNone_iff_eq_none]
    exact Option.isSome_iff_ne_none.mp (h u)

lemma sparesTables_liftM {β : Type} (s : Except ArithmeticFault β) :
    SparesTables (liftM s : Except (Fault α) β) := by
  cases s with
  | ok x => exact .ok trivial
  | error g => cases g <;> exact .error Bool.false_ne_true

lemma sparesTables_of_unresolved {s : Except (Fault α) Dimension} {Q : Dimension → Prop}
    (hs : Ends Q (fun f => f.kind = .unresolvedDimension) s) : SparesTables s := by
  refine hs.mono (fun _ _ => trivial) fun f hf => ?_
  rw [hf]
  exact Bool.false_ne_true

variable [Scalar α]

lemma baseCount_eq (d : Dimension) : t.baseCount d = (t.baseUnits d).length := by
  rw [UnitTable.baseCount, UnitTable.baseUnits, List.length_map, List.countP_eq_length_filter]
  simp only [Bool.and_comm]

lemma exists_baseUnitOf_iff {d : Dimension} :
    (∃ u, t.baseUnitOf d = .ok u) ↔ t.baseCount d = 1 := by
  rw [baseCount_eq]
  unfold UnitTable.baseUnitOf
  split
  next u hu => simp [hu]
  next hne =>
    constructor
    · rintro ⟨u, hu⟩
      exact nomatch hu
    · intro hone
      obtain ⟨u, hu⟩ := List.length_eq_one_iff.mp hone
      exact absurd hu (hne u)

lemma wrongBases_eq_none_iff :
    (Dimension.all.find? fun d => t.baseCount d != 1) = none ↔ ∀ d, t.baseCount d = 1 := by
  rw [List.find?_eq_none]
  constructor
  · intro h d
    simpa using h d d.mem_all
  · intro h d _
    simp [h d]

lemma check_eq_ok_iff :
    t.check = .ok () ↔
      (∀ u role, ∃ entry, t.lookup u role = .ok entry) ∧ ∀ d, ∃ u, t.baseUnitOf d = .ok u := by
  simp only [exists_lookup_iff, exists_baseUnitOf_iff, forall_const, ← missing_eq_nil_iff,
    ← wrongBases_eq_none_iff]
  unfold UnitTable.check
  split
  next hmissing =>
    rw [hmissing]
    split
    next d hd => simp [hd]
    next hnone => simp [hnone]
  next hne =>
    constructor
    · intro h
      exact nomatch h
    · rintro ⟨hmissing, -⟩
      exact absurd hmissing hne

/-! ### What uses the table -/

section Checked

variable (h : t.check = .ok ())

include h

lemma lookup_of_check (u : MeasureUnit) (role : String) : ∃ entry, t.lookup u role = .ok entry :=
  (check_eq_ok_iff.mp h).1 u role

lemma baseUnitOf_of_check (d : Dimension) : ∃ u, t.baseUnitOf d = .ok u :=
  (check_eq_ok_iff.mp h).2 d

lemma sparesTables_convert (q : Quantity α) (target : MeasureUnit) :
    SparesTables (q.convert t target) := by
  obtain ⟨source, hsource⟩ := lookup_of_check h q.unit "source"
  obtain ⟨goal, hgoal⟩ := lookup_of_check h target "destination"
  unfold Quantity.convert
  rw [hsource, ok_bind, hgoal, ok_bind]
  split
  · exact .error Bool.false_ne_true
  · split
    · exact .ok trivial
    · refine (sparesTables_liftM _).bind fun base _ => ?_
      exact (sparesTables_liftM _).bind fun value _ => .ok trivial

lemma sparesTables_combine (relations : List Relation) (symbol : Symbol)
    (op : α → α → Except ArithmeticFault α) (a b : Operand α) :
    SparesTables (Operand.combine ⟨t, relations⟩ symbol op a b) := by
  cases a with
  | number x =>
    cases b with
    | number y => exact (sparesTables_liftM _).bind fun _ _ => .ok trivial
    | quantity q => exact .error Bool.false_ne_true
  | quantity p =>
    cases b with
    | number y => exact .error Bool.false_ne_true
    | quantity q =>
      rw [Operand.combine]
      split
      · exact (sparesTables_liftM _).bind fun _ _ => .ok trivial
      · refine (sparesTables_convert h q p.unit).bind fun r _ => ?_
        exact (sparesTables_liftM _).bind fun _ _ => .ok trivial

lemma sparesTables_scale (relations : List Relation) (symbol : Symbol)
    (op : α → α → Except ArithmeticFault α)
    (dim : Dimension → Dimension → Except (Fault α) Dimension)
    (hdim : ∀ d e, SparesTables (dim d e)) (a b : Operand α) :
    SparesTables (Operand.scale ⟨t, relations⟩ op dim symbol a b) := by
  cases a with
  | number x => cases b <;> exact (sparesTables_liftM _).bind fun _ _ => .ok trivial
  | quantity p =>
    cases b with
    | number y => exact (sparesTables_liftM _).bind fun _ _ => .ok trivial
    | quantity q =>
      obtain ⟨left, hleft⟩ := lookup_of_check h p.unit ("left operand of " ++ symbol.text)
      obtain ⟨right, hright⟩ := lookup_of_check h q.unit ("right operand of " ++ symbol.text)
      rw [Operand.scale, hleft, ok_bind, hright, ok_bind]
      refine (hdim _ _).bind fun d _ => ?_
      -- the dimension comes from the relations alone, so its base unit has to exist in any case
      obtain ⟨unit, hunit⟩ := baseUnitOf_of_check h d
      rw [hunit, ok_bind]
      refine (sparesTables_liftM _).bind fun x _ => ?_
      refine (sparesTables_liftM _).bind fun y _ => ?_
      exact (sparesTables_liftM _).bind fun _ _ => .ok trivial

lemma sparesTables_apply (relations : List Relation) (symbol : Symbol) (a b : Operand α) :
    SparesTables (Operand.apply ⟨t, relations⟩ symbol a b) := by
  cases symbol with
  | plus => exact sparesTables_combine h relations .plus Scalar.add a b
  | minus => exact sparesTables_combine h relations .minus Scalar.sub a b
  | times =>
    exact sparesTables_scale h relations .times Scalar.mul _
      (fun d e => sparesTables_of_unresolved (ends_multiplyDimensions relations d e)) a b
  | slash =>
    exact sparesTables_scale h relations .slash Scalar.div _
      (fun d e => sparesTables_of_unresolved (ends_divideDimensions relations d e)) a b

lemma listUnits_of_check (d : Option Dimension) : ∃ infos, listUnits t d = .ok infos := by
  have hinfo : ∀ u, ∃ info, t.info u = .ok info := by
    intro u
    obtain ⟨entry, hentry⟩ := lookup_of_check h u ""
    rw [UnitTable.info, hentry]
    exact ⟨_, rfl⟩
  cases d with
  | none => exact exists_mapM_eq_ok fun u _ => hinfo u
  | some d => exact exists_mapM_eq_ok fun u _ => hinfo u

lemma listDimensions_of_check (relations : List Relation) :
    ∃ infos, listDimensions ⟨t, relations⟩ = .ok infos := by
  refine exists_mapM_eq_ok fun d _ => ?_
  obtain ⟨base, hbase⟩ := baseUnitOf_of_check h d
  rw [Tables.info]
  dsimp only
  rw [hbase]
  exact ⟨_, rfl⟩

end Checked

/--
The check decides whether look-ups succeed: it accepts a table when all units are found and all
dimensions have their base unit. With such a table and any relations no conversion and no operation
fails for the tables, and the listings do not fail at all.
-/
theorem check_decides_lookups (t : UnitTable α) :
    (t.check = .ok () ↔
      (∀ u role, ∃ entry, t.lookup u role = .ok entry) ∧ ∀ d, ∃ u, t.baseUnitOf d = .ok u) ∧
    (t.check = .ok () → ∀ relations : List Relation,
      (∀ (q : Quantity α) target f, q.convert t target = .error f → ¬ f.kind.concernsTables) ∧
      (∀ symbol a b f, Operand.apply ⟨t, relations⟩ symbol a b = .error f →
        ¬ f.kind.concernsTables) ∧
      (∀ d, ∃ infos, listUnits t d = .ok infos) ∧
      ∃ infos, listDimensions ⟨t, relations⟩ = .ok infos) := by
  refine ⟨check_eq_ok_iff, fun h relations => ⟨?_, ?_, ?_, ?_⟩⟩
  · intro q target f hf
    exact (sparesTables_convert h q target).of_eq_error hf
  · intro symbol a b f hf
    exact (sparesTables_apply h relations symbol a b).of_eq_error hf
  · exact listUnits_of_check h
  · exact listDimensions_of_check h relations

end Check

lemma Standard.check_units {α : Type} [Scalar α] [FindsBases α] :
    (units : UnitTable α).check = .ok () := by
  rw [check_eq_ok_iff]
  exact ⟨fun u role => ⟨_, lookup_units u role⟩, fun d => ⟨_, baseUnitOf_units d⟩⟩

/-- The standard table passes, and without metres it does not. -/
theorem check_decides_lookups_standard :
    (∀ target f, Quantity.convert (Standard.units : UnitTable Number) ⟨.int 1, .foot⟩ target =
      .error f → ¬ f.kind.concernsTables) ∧
    (∃ infos, listUnits (Standard.units : UnitTable Number) (some .length) = .ok infos) ∧
    (∃ infos, listDimensions (Standard.tables : Tables Number) = .ok infos) ∧
    UnitTable.check ((Standard.units : UnitTable Number).erase .metre) ≠ .ok () := by
  obtain ⟨-, hpass⟩ := check_decides_lookups (Standard.units : UnitTable Number)
  obtain ⟨hconvert, -, hunits, hdimensions⟩ := hpass Standard.check_units Standard.relations
  refine ⟨hconvert _, hunits _, hdimensions, fun h => ?_⟩
  obtain ⟨hiff, -⟩ := check_decides_lookups ((Standard.units : UnitTable Number).erase .metre)
  obtain ⟨entry, hentry⟩ := (hiff.mp h).1 .metre ""
  have hfound := exists_lookup_iff.mp ⟨entry, hentry⟩
  exact absurd hfound (by decide +kernel)

end FlightUnits
