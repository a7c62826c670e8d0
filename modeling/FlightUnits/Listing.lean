import FlightUnits.Json.Basic
import FlightUnits.Registry

/-!
# Listings of the tables

What the tables say about units and dimensions, in table order: a record for each unit, for all
units or those of one dimension, and a record for each dimension with its base unit, its units and
the relations that mention it.
-/

namespace FlightUnits

/-- What a table says about a unit; only scalar conversions have a factor. -/
structure UnitInfo (α : Type) where
  id : MeasureUnit
  dimension : Dimension
  description : String
  base : Bool
  factor : Option α

/-- What the tables say about a dimension. -/
structure DimensionInfo where
  dimension : Dimension
  baseUnit : MeasureUnit
  units : List MeasureUnit
  relations : List Relation
deriving DecidableEq

variable {α : Type} [Scalar α]

/-- What a table says about a unit. -/
def UnitTable.info (t : UnitTable α) (u : MeasureUnit) : Except (Fault α) (UnitInfo α) := do
  let entry ← t.lookup u ""
  return ⟨u, entry.dimension, entry.description, entry.conversion.isBase, entry.conversion.factor?⟩

/-- The records of all units, or of those of one dimension. -/
def listUnits (t : UnitTable α) (dimension : Option Dimension) :
    Except (Fault α) (List (UnitInfo α)) :=
  match dimension with
  | some d => (t.unitsOf d).mapM t.info
  | none => t.units.mapM t.info

/-- What the tables say about a dimension. -/
def Tables.info (t : Tables α) (d : Dimension) : Except (Fault α) DimensionInfo := do
  let base ← t.units.baseUnitOf d
  return ⟨d, base, t.units.unitsOf d, t.relations.filter (·.mentions d)⟩

/-- The records of all dimensions. -/
def listDimensions (t : Tables α) : Except (Fault α) (List DimensionInfo) :=
  Dimension.all.mapM t.info

/-- A number as a JSON tree. -/
def Number.toJson : Number → Json
  | int n => .int n
  | real x => .real x

/-- The record of a unit as a JSON tree. -/
def UnitInfo.toJson (info : UnitInfo Number) : Json :=
  .object [
    ("id", .text info.id.id),
    ("dimension", .text info.dimension.id),
    ("description", .text info.description),
    ("base", .truth info.base),
    ("factor", (info.factor.map Number.toJson).getD .null)]

/-- The record of a dimension as a JSON tree. -/
def DimensionInfo.toJson (info : DimensionInfo) : Json :=
  .object [
    ("dimension", .text info.dimension.id),
    ("base_unit", .text info.baseUnit.id),
    ("units", .array (info.units.map fun u => .text u.id)),
    ("relations", .array (info.relations.map fun r => .text r.text))]

end FlightUnits
