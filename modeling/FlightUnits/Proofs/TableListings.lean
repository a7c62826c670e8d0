import FlightUnits.Listing
import FlightUnits.Proofs.FallibleSteps
import FlightUnits.Proofs.StandardTables
import Mathlib.Data.List.Basic
import Mathlib.Data.List.Nodup

/-!
# What the listings say of the tables

The listings of any table, whatever is missing from it. The units are listed in table order, and
those of one dimension are what the whole listing has of it, so that every unit is in the listing of
its own dimension only. The dimensions are listed when each has exactly one unit of factor one; then
the record of a dimension agrees with the records of its units about the base unit, and it has the
texts of the relations that the dimension occurs in and of no others.
-/

namespace FlightUnits

variable {α : Type} {t : UnitTable α} {u v : MeasureUnit} {d : Dimension} {entry : Descriptor α}

/-! ### Entries -/

lemma find?_of_mem (h : (u, entry) ∈ t.entries) : t.find? u = some entry := by
  obtain ⟨found, hfound⟩ : ∃ found, (t.entries.find? fun other => other.1 == u) = some found := by
    rw [← Option.isSome_iff_exists, List.find?_isSome]
    exact ⟨(u, entry), h, beq_self_eq_true u⟩
  have hunit : found.1 = u := by simpa using List.find?_some hfound
  have hequal : found = (u, entry) :=
    List.inj_on_of_nodup_map t.nodup (List.mem_of_find?_eq_some hfound) h hunit
  rw [UnitTable.find?, hfound, hequal, Option.map_some]

lemma mem_of_find? (h : t.find? u = some entry) : (u, entry) ∈ t.entries := by
  obtain ⟨found, hfound, rfl⟩ := Option.map_eq_some_iff.mp h
  have hunit : found.1 = u := by simpa using List.find?_some hfound
  rw [← hunit]
  exact List.mem_of_find?_eq_some hfound

/-- The units of the entries that satisfy a condition. -/
lemma mem_map_fst_filter {p : MeasureUnit × Descriptor α → Bool} :
    u ∈ (t.entries.filter p).map Prod.fst ↔ ∃ entry, t.find? u = some entry ∧ p (u, entry) := by
  simp only [List.mem_map, List.mem_filter, Prod.exists]
  constructor
  · rintro ⟨w, entry, ⟨hmem, hp⟩, rfl⟩
    exact ⟨entry, find?_of_mem hmem, hp⟩
  · rintro ⟨entry, hfind, hp⟩
    exact ⟨u, entry, ⟨mem_of_find? hfind, hp⟩, rfl⟩

lemma mem_unitsOf_iff :
    u ∈ t.unitsOf d ↔ ∃ entry, t.find? u = some entry ∧ entry.dimension = d := by
  rw [UnitTable.unitsOf, mem_map_fst_filter]
  simp only [beq_iff_eq]

variable [Scalar α]

/-! ### Units -/

/-- What an entry says about its unit. -/
def UnitInfo.ofEntry (entry : MeasureUnit × Descriptor α) : UnitInfo α :=
  ⟨entry.1, entry.2.dimension, entry.2.description, entry.2.conversion.isBase,
    entry.2.conversion.factor?⟩

lemma info_of_find? (h : t.find? u = some entry) :
    t.info u = .ok (UnitInfo.ofEntry (u, entry)) := by
  rw [UnitTable.info, UnitTable.lookup, h]
  rfl

lemma mapM_info {entries : List (MeasureUnit × Descriptor α)} (h : entries ⊆ t.entries) :
    (entries.map Prod.fst).mapM t.info = .ok (entries.map UnitInfo.ofEntry) := by
  rw [List.mapM_map]
  exact mapM_eq_ok_map fun other hother => info_of_find? (find?_of_mem (h hother))

/-- The records of all units of a table. -/
def UnitTable.infos (t : UnitTable α) : List (UnitInfo α) := t.entries.map UnitInfo.ofEntry

lemma listUnits_none : listUnits t none = .ok t.infos := mapM_info (List.Subset.refl _)

lemma listUnits_some : listUnits t (some d) = .ok (t.infos.filter (·.dimension = d)) := by
  have hfilter : t.infos.filter (·.dimension = d) =
      (t.entries.filter fun other => other.2.dimension == d).map UnitInfo.ofEntry :=
    List.filter_map
  rw [hfilter]
  exact mapM_info (List.filter_subset_self _)

lemma map_id_infos : t.infos.map UnitInfo.id = t.units := by
  rw [UnitTable.infos, List.map_map]
  rfl

lemma map_id_filter_infos : (t.infos.filter (·.dimension = d)).map UnitInfo.id = t.unitsOf d := by
  rw [UnitTable.infos, List.filter_map, List.map_map]
  rfl

lemma info_of_mem_infos {i : UnitInfo α} (h : i ∈ t.infos) : t.info i.id = .ok i := by
  obtain ⟨⟨w, other⟩, hmem, rfl⟩ := List.mem_map.mp h
  exact info_of_find? (find?_of_mem hmem)

/-! ### Base units -/

/-- The unit is registered for the dimension with the factor one. -/
def UnitTable.IsBaseOf (t : UnitTable α) (u : MeasureUnit) (d : Dimension) : Prop :=
  ∃ entry, t.find? u = some entry ∧ entry.dimension = d ∧
    ∃ factor, entry.conversion.factor? = some factor ∧ Scalar.eq factor (Scalar.ofLiteral 1)

lemma isBase_iff {c : Conversion α} :
    c.isBase ↔ ∃ factor, c.factor? = some factor ∧ Scalar.eq factor (Scalar.ofLiteral 1) := by
  unfold Conversion.isBase
  cases c.factor? <;> simp

lemma mem_baseUnits_iff : u ∈ t.baseUnits d ↔ t.IsBaseOf u d := by
  rw [UnitTable.baseUnits, mem_map_fst_filter, UnitTable.IsBaseOf]
  simp only [Bool.and_eq_true, beq_iff_eq, isBase_iff]

lemma nodup_baseUnits : (t.baseUnits d).Nodup := t.nodup.sublist (List.filter_sublist.map _)

/-- A base unit is resolved when it is the only one of its dimension. -/
lemma baseUnitOf_eq_ok_iff : t.baseUnitOf d = .ok u ↔ ∀ v, t.IsBaseOf v d ↔ v = u := by
  have hsingle : t.baseUnitOf d = .ok u ↔ t.baseUnits d = [u] := by
    unfold UnitTable.baseUnitOf
    split
    next w hw => simp [hw]
    next hne => exact iff_of_false (by rintro ⟨⟩) (hne u)
  rw [hsingle, ← List.perm_singleton,
    List.perm_ext_iff_of_nodup nodup_baseUnits (List.nodup_singleton u)]
  simp only [mem_baseUnits_iff, List.mem_singleton]

lemma exists_baseUnitOf : (∃ u, t.baseUnitOf d = .ok u) ↔ ∃! u, t.IsBaseOf u d := by
  simp only [baseUnitOf_eq_ok_iff, ExistsUnique, iff_def, forall_and, forall_eq, and_comm]

lemma kind_of_baseUnitOf_error {f : Fault α} (h : t.baseUnitOf d = .error f) :
    f.kind = .table := by
  unfold UnitTable.baseUnitOf at h
  split at h
  · cases h
  · rw [← Except.error.inj h, Fault.kind]

lemma isBase_iff_isBaseOf (h : t.find? u = some entry) :
    entry.conversion.isBase ↔ t.IsBaseOf u entry.dimension := by
  rw [isBase_iff]
  constructor
  · intro hfactor
    exact ⟨entry, h, rfl, hfactor⟩
  · rintro ⟨found, hfound, -, hfactor⟩
    obtain rfl := Option.some.inj (h.symm.trans hfound)
    exact hfactor

/-! ### Relations -/

namespace Relation

lemma mentions_iff {r : Relation} : r.mentions d ↔ d ∈ [r.product, r.left, r.right] := by
  simp [mentions, hasFactor]

/-- Neither sign of a relation occurs in the identifier of a dimension. -/
lemma notMem_id (d : Dimension) : '=' ∉ d.id.toList ∧ 'x' ∉ d.id.toList := by
  cases d <;> decide

lemma toList_text (r : Relation) :
    r.text.toList = (r.product.id.toList ++ [' ']) ++ '=' ::
      ((' ' :: r.left.id.toList ++ [' ']) ++ 'x' :: ' ' :: r.right.id.toList) := by
  simp [text, String.toList_append]

/-- A relation is known by its text. -/
theorem text_injective {r s : Relation} (h : r.text = s.text) : r = s := by
  have hlist := congrArg String.toList h
  rw [toList_text, toList_text] at hlist
  have hproduct : '=' ∉ r.product.id.toList ++ [' '] := by simp [notMem_id]
  have hfactors : '=' ∉ (' ' :: r.left.id.toList ++ [' ']) ++ 'x' :: ' ' :: r.right.id.toList := by
    simp [notMem_id]
  have hleft : 'x' ∉ ' ' :: r.left.id.toList ++ [' '] := by simp [notMem_id]
  have hright : 'x' ∉ ' ' :: r.right.id.toList := by simp [notMem_id]
  rw [List.append_cons_inj_of_notMem hproduct hfactors,
    List.append_cons_inj_of_notMem hleft hright] at hlist
  obtain ⟨hproducts, -, hlefts, -, hrights⟩ := hlist
  have hproductId : r.product.id = s.product.id :=
    String.toList_inj.mp (List.append_cancel_right hproducts)
  have hleftId : r.left.id = s.left.id :=
    String.toList_inj.mp (List.append_cancel_right (List.cons.inj hlefts).2)
  have hrightId : r.right.id = s.right.id := String.toList_inj.mp (List.cons.inj hrights).2
  cases r
  cases s
  rw [Relation.mk.injEq]
  exact ⟨Dimension.id_injective hproductId, Dimension.id_injective hleftId,
    Dimension.id_injective hrightId⟩

end Relation

/-! ### Dimensions -/

/-- The record of a dimension says what the units and the relations of the tables say of it. -/
structure DimensionInfo.IsRecordIn (i : DimensionInfo) (t : Tables α) : Prop where
  units_eq : ∃ part, listUnits t.units (some i.dimension) = .ok part ∧
    i.units = part.map UnitInfo.id
  baseUnit_mem : i.baseUnit ∈ i.units
  base_iff : ∀ u ∈ i.units, ∃ info, t.units.info u = .ok info ∧ (info.base ↔ u = i.baseUnit)
  relations_eq : i.relations =
    t.relations.filter fun r => i.dimension ∈ [r.product, r.left, r.right]
  text_mem_iff : ∀ r ∈ t.relations, r.text ∈ i.relations.map Relation.text ↔
    i.dimension ∈ [r.product, r.left, r.right]

section Dimensions

variable {tables : Tables α} {i : DimensionInfo}

lemma info_eq_ok_iff : tables.info d = .ok i ↔
    ∃ base, tables.units.baseUnitOf d = .ok base ∧
      ⟨d, base, tables.units.unitsOf d, tables.relations.filter (·.mentions d)⟩ = i := by
  rw [Tables.info, bind_eq_ok_iff]
  simp only [pure_eq_ok, Except.ok.injEq]

lemma exists_info_iff :
    (∃ i, tables.info d = .ok i) ↔ ∃! u, tables.units.IsBaseOf u d := by
  rw [← exists_baseUnitOf]
  simp only [info_eq_ok_iff]
  constructor
  · rintro ⟨i, base, hbase, -⟩
    exact ⟨base, hbase⟩
  · rintro ⟨base, hbase⟩
    exact ⟨_, base, hbase, rfl⟩

lemma kind_of_info_error {f : Fault α} (h : tables.info d = .error f) : f.kind = .table := by
  rcases bind_eq_error_iff.mp h with hbase | ⟨base, -, h⟩
  · exact kind_of_baseUnitOf_error hbase
  · cases h

lemma isRecordIn_of_info (h : tables.info d = .ok i) : i.dimension = d ∧ i.IsRecordIn tables := by
  obtain ⟨base, hbase, rfl⟩ := info_eq_ok_iff.mp h
  rw [baseUnitOf_eq_ok_iff] at hbase
  have hfilter : (tables.relations.filter (·.mentions d)) =
      tables.relations.filter fun r => d ∈ [r.product, r.left, r.right] :=
    List.filter_congr fun r _ => by rw [Bool.eq_iff_iff, Relation.mentions_iff, decide_eq_true_eq]
  refine ⟨rfl, ⟨_, listUnits_some, map_id_filter_infos.symm⟩, ?_, ?_, hfilter, ?_⟩
  · obtain ⟨entry, hfind, hdimension, -⟩ := (hbase base).mpr rfl
    exact mem_unitsOf_iff.mpr ⟨entry, hfind, hdimension⟩
  · intro u hu
    obtain ⟨entry, hfind, rfl⟩ := mem_unitsOf_iff.mp hu
    exact ⟨_, info_of_find? hfind, (isBase_iff_isBaseOf hfind).trans (hbase u)⟩
  · intro r hr
    rw [hfilter, List.mem_map]
    simp only [List.mem_filter, decide_eq_true_eq]
    constructor
    · rintro ⟨s, ⟨-, hs⟩, htext⟩
      rwa [← Relation.text_injective htext]
    · intro hd
      exact ⟨r, ⟨hr, hd⟩, rfl⟩

/-- The dimensions are listed when each of them has its base unit. -/
lemma exists_listDimensions_iff :
    (∃ listed, listDimensions tables = .ok listed) ↔
      ∀ d, ∃! u, tables.units.IsBaseOf u d := by
  simp only [← exists_info_iff]
  constructor
  · rintro ⟨listed, hlisted⟩ d
    exact exists_of_mapM_eq_ok hlisted d d.mem_all
  · intro h
    exact exists_mapM_eq_ok fun d _ => h d

lemma isRecordIn_of_listDimensions {listed : List DimensionInfo}
    (h : listDimensions tables = .ok listed) :
    listed.map DimensionInfo.dimension = Dimension.all ∧ ∀ i ∈ listed, i.IsRecordIn tables := by
  have hsome : ∀ d, ∃ i, tables.info d = .ok i := fun d => exists_of_mapM_eq_ok h d d.mem_all
  choose record hrecord using hsome
  have hlisted : listed = Dimension.all.map record :=
    Except.ok.inj (h.symm.trans (mapM_eq_ok_map fun d _ => hrecord d))
  have hdimension : DimensionInfo.dimension ∘ record = id :=
    funext fun d => (isRecordIn_of_info (hrecord d)).1
  rw [hlisted]
  constructor
  · rw [List.map_map, hdimension, List.map_id]
  · intro i hi
    obtain ⟨d, -, rfl⟩ := List.mem_map.mp hi
    exact (isRecordIn_of_info (hrecord d)).2

end Dimensions

/--
The listings of any tables. All registered units are listed in table order, each by what the table
says of it; those of one dimension are the part of that listing with the dimension, so that a unit
is in the listing of its own dimension alone. The dimensions are listed when each has exactly one
unit of factor one, and else the tables are at fault; their records agree with those of the units
and with the relations.
-/
theorem listings_partition (t : Tables α) :
    ∃ infos, listUnits t.units none = .ok infos ∧
      infos.map UnitInfo.id = t.units.units ∧ (∀ i ∈ infos, t.units.info i.id = .ok i) ∧
      (∀ d, listUnits t.units (some d) = .ok (infos.filter (·.dimension = d))) ∧
      (∀ i ∈ infos, ∀ d, (∃ part, listUnits t.units (some d) = .ok part ∧ i ∈ part) ↔
        d = i.dimension) ∧
      ((∃ listed, listDimensions t = .ok listed) ↔ ∀ d, ∃! u, t.units.IsBaseOf u d) ∧
      (∀ f, listDimensions t = .error f → f.kind = .table) ∧
      ∀ listed, listDimensions t = .ok listed →
        listed.map DimensionInfo.dimension = Dimension.all ∧ ∀ i ∈ listed, i.IsRecordIn t := by
  refine ⟨t.units.infos, listUnits_none, map_id_infos, fun _ => info_of_mem_infos,
    fun _ => listUnits_some, ?_, exists_listDimensions_iff, ?_,
    fun _ => isRecordIn_of_listDimensions⟩
  · intro i hi d
    rw [listUnits_some]
    constructor
    · rintro ⟨part, hpart, hmem⟩
      rw [← Except.ok.inj hpart, List.mem_filter, decide_eq_true_eq] at hmem
      exact hmem.2.symm
    · rintro rfl
      exact ⟨_, rfl, List.mem_filter.mpr ⟨hi, decide_eq_true rfl⟩⟩
  · intro f hf
    obtain ⟨d, -, hd⟩ := exists_of_mapM_eq_error hf
    exact kind_of_info_error hd

/-- The standard tables are listed; without metres the lengths have no base unit. -/
theorem listings_partition_standard :
    (∃ listed, listDimensions (Standard.tables : Tables Number) = .ok listed ∧
      ∀ i ∈ listed, i.IsRecordIn (Standard.tables : Tables Number)) ∧
    ∃ f, listDimensions (⟨(Standard.units : UnitTable Number).erase .metre, Standard.relations⟩) =
      .error f ∧ f.kind = .table := by
  constructor
  · obtain ⟨-, -, -, -, -, -, hiff, -, hrecords⟩ :=
      listings_partition (Standard.tables : Tables Number)
    obtain ⟨listed, hlisted⟩ := hiff.mpr fun d =>
      exists_baseUnitOf.mp ⟨_, Standard.baseUnitOf_units d⟩
    exact ⟨listed, hlisted, (hrecords listed hlisted).2⟩
  · obtain ⟨-, -, -, -, -, -, hiff, hkind, -⟩ :=
      listings_partition ⟨(Standard.units : UnitTable Number).erase .metre, Standard.relations⟩
    have hnone : ((Standard.units : UnitTable Number).erase .metre).baseUnits .length = [] := by
      decide +kernel
    cases hlisted : listDimensions
        (⟨(Standard.units : UnitTable Number).erase .metre, Standard.relations⟩) with
    | error f => exact ⟨f, rfl, hkind f hlisted⟩
    | ok listed =>
      obtain ⟨u, hu, -⟩ := hiff.mp ⟨listed, hlisted⟩ .length
      rw [← mem_baseUnits_iff, hnone] at hu
      cases hu

end FlightUnits
