import FlightUnits.Relation
import FlightUnits.Scalar

/-!
# Unit tables

A unit table gives units their entries: the dimension, the conversion to and from the base unit of
the dimension, and a description. A unit has at most one entry, and the order of the entries is the
order of every listing. A base unit is one with the factor one. `checkUnits` accepts the tables in
which every unit has an entry and every dimension exactly one base unit.
-/

namespace FlightUnits

/-- How values in a unit relate to values in the base unit of its dimension. -/
inductive Conversion (α : Type) where
  /-- One unit is `factor` base units. -/
  | scalar (factor : α)
  /-- A conversion with an offset, as a pair of functions. -/
  | affine (toBase fromBase : α → Except ArithmeticFault α)

namespace Conversion

variable {α : Type} [Scalar α]

/-- A value in the unit, expressed in the base unit. -/
def toBase : Conversion α → α → Except ArithmeticFault α
  | scalar factor, x => Scalar.mul x factor
  | affine toBase _, x => toBase x

/-- A value in the base unit, expressed in the unit. -/
def fromBase : Conversion α → α → Except ArithmeticFault α
  | scalar factor, x => Scalar.div x factor
  | affine _ fromBase, x => fromBase x

omit [Scalar α] in
/-- The factor to the base unit, which only scalar conversions have. -/
def factor? : Conversion α → Option α
  | scalar factor => some factor
  | affine _ _ => none

/-- Whether the conversion is that of a base unit. -/
def isBase (c : Conversion α) : Bool :=
  match c.factor? with
  | some factor => Scalar.eq factor (Scalar.ofLiteral 1)
  | none => false

end Conversion

/-- The entry of a unit. -/
structure Descriptor (α : Type) where
  dimension : Dimension
  conversion : Conversion α
  description : String

/-- A table of units, each with at most one entry. -/
structure UnitTable (α : Type) where
  entries : List (MeasureUnit × Descriptor α)
  nodup : (entries.map Prod.fst).Nodup

/-- The tables that unit arithmetic reads. -/
structure Tables (α : Type) where
  units : UnitTable α
  relations : List Relation

namespace UnitTable

variable {α : Type}

/-- The registered units, in table order. -/
def units (t : UnitTable α) : List MeasureUnit := t.entries.map Prod.fst

/-- The entry of a unit. -/
def find? (t : UnitTable α) (u : MeasureUnit) : Option (Descriptor α) :=
  (t.entries.find? fun entry => entry.1 == u).map Prod.snd

/-- The entry of a unit, or the fault that it has none; `role` is empty without a special role. -/
def lookup (t : UnitTable α) (u : MeasureUnit) (role : String) :
    Except (Fault α) (Descriptor α) :=
  match t.find? u with
  | some entry => .ok entry
  | none => .error (.unknownUnit u.id role)

/-- The registered units of a dimension, in table order. -/
def unitsOf (t : UnitTable α) (d : Dimension) : List MeasureUnit :=
  (t.entries.filter fun entry => entry.2.dimension == d).map Prod.fst

/-- The table without a unit. -/
def erase (t : UnitTable α) (u : MeasureUnit) : UnitTable α where
  entries := t.entries.filter fun entry => entry.1 != u
  nodup := t.nodup.sublist (List.filter_sublist.map _)

/-- Replaces the entry at its place. -/
def replaceEntry (u : MeasureUnit) (entry : Descriptor α) (other : MeasureUnit × Descriptor α) :
    MeasureUnit × Descriptor α :=
  if other.1 = u then (u, entry) else other

theorem fst_replaceEntry (u : MeasureUnit) (entry : Descriptor α)
    (other : MeasureUnit × Descriptor α) : (replaceEntry u entry other).1 = other.1 := by
  unfold replaceEntry
  split
  · rename_i h
    exact h.symm
  · rfl

theorem map_fst_replaceEntry (u : MeasureUnit) (entry : Descriptor α)
    (entries : List (MeasureUnit × Descriptor α)) :
    (entries.map (replaceEntry u entry)).map Prod.fst = entries.map Prod.fst := by
  rw [List.map_map]
  exact List.map_congr_left fun other _ => fst_replaceEntry u entry other

/-- The table with a new entry for a unit: at the place of the old one, or else at the end. -/
def insert (t : UnitTable α) (u : MeasureUnit) (entry : Descriptor α) : UnitTable α :=
  if h : u ∈ t.entries.map Prod.fst then
    ⟨t.entries.map (replaceEntry u entry), by rw [map_fst_replaceEntry]; exact t.nodup⟩
  else
    ⟨t.entries ++ [(u, entry)], by
      rw [List.map_append, List.nodup_append]
      refine ⟨t.nodup, by simp, fun a ha b hb => ?_⟩
      simp only [List.map_cons, List.map_nil, List.mem_singleton] at hb
      subst hb
      intro equal
      exact h (equal ▸ ha)⟩

variable [Scalar α]

/-- The base units of a dimension, in table order. -/
def baseUnits (t : UnitTable α) (d : Dimension) : List MeasureUnit :=
  (t.entries.filter fun entry =>
    entry.2.dimension == d && entry.2.conversion.isBase).map Prod.fst

/-- The base unit of a dimension that has exactly one. -/
def baseUnitOf (t : UnitTable α) (d : Dimension) : Except (Fault α) MeasureUnit :=
  match t.baseUnits d with
  | [u] => .ok u
  | candidates => .error (.table (.unresolvedBase d candidates.length))

/-- The number of entries of a dimension that are base units. -/
def baseCount (t : UnitTable α) (d : Dimension) : Nat :=
  t.entries.countP fun entry => entry.2.conversion.isBase && entry.2.dimension == d

/-- Accepts a table with an entry for every unit and one base unit for every dimension. -/
def check (t : UnitTable α) : Except (Fault α) Unit :=
  match MeasureUnit.all.filter fun u => (t.find? u).isNone with
  | [] =>
    match Dimension.all.find? fun d => t.baseCount d != 1 with
    | some d => .error (.table (.baseCount d (t.baseCount d)))
    | none => .ok ()
  | missing => .error (.table (.missingEntries missing))

end UnitTable

namespace UnitTag

variable {α : Type}

/-- The unit that a tag names; `role` is empty without a special role. -/
def resolve (tag : UnitTag) (role : String) : Except (Fault α) MeasureUnit :=
  match tag with
  | known u => .ok u
  | foreign text => .error (.unknownUnit text role)

end UnitTag

namespace Quantity

variable {α : Type}

/-- The dimension of a quantity. -/
def dimension (q : Quantity α) (t : UnitTable α) : Except (Fault α) Dimension :=
  (t.lookup q.unit "").map Descriptor.dimension

/-- The description of the unit of a quantity. -/
def description (q : Quantity α) (t : UnitTable α) : Except (Fault α) String :=
  (t.lookup q.unit "").map Descriptor.description

end Quantity

end FlightUnits
