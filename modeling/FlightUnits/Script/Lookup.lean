import FlightUnits.Listing
import FlightUnits.Script.Argument
import FlightUnits.Script.Equality
import FlightUnits.Script.Hash

/-!
# Looking things up in the tables

The functions of units and dimensions on values. What counts as a dimension finds what the
dimension finds, and everything else finds nothing. A result is reported with the values of the
dimensions that led to it, which plain texts do not have.
-/

namespace FlightUnits.Script

/-- The entry of the unit that a value names. -/
def lookup (t : UnitTable Number) (tag r : Value) : Except Failure (Descriptor Number) := do
  let u ← unit tag r
  match t.find? u with
  | some entry => return entry
  | none =>
    let role ← role r
    t.lookup u role

/-- The dimension of a quantity. -/
def dimensionOf (t : UnitTable Number) (v : Value) : Except Failure Value := do
  let q ← measured v
  let d ← q.dimension t
  return .dimension d

/-- The description of the unit of a quantity. -/
def describe (t : UnitTable Number) (v : Value) : Except Failure Value := do
  let q ← measured v
  let s ← q.description t
  return .text s

/-- The units of the dimension that a value counts as. -/
def unitsOf (t : UnitTable Number) (v : Value) : List MeasureUnit :=
  match v.asDimension? with
  | some d => t.unitsOf d
  | none => []

/-- The records of all units, or of those of the dimension that a value counts as. -/
def listUnits (t : UnitTable Number) (v : Value) : Except Failure (List (UnitInfo Number)) :=
  match v with
  | .null => (FlightUnits.listUnits t none : Except (Fault Number) _)
  | v =>
    match v.asDimension? with
    | some d => (FlightUnits.listUnits t (some d) : Except (Fault Number) _)
    | none => .ok []

/-- The base units of the dimension that a value counts as. -/
def baseUnits (t : UnitTable Number) (v : Value) : List MeasureUnit :=
  match v.asDimension? with
  | some d => t.baseUnits d
  | none => []

/-- The base unit of the dimension that a value counts as. -/
def baseUnitOf (t : UnitTable Number) (v : Value) : Except Failure MeasureUnit :=
  match baseUnits t v with
  | [u] => .ok u
  | candidates => do
    let name ← hasValue v
    if v.isWritable then throw (.unresolvedBase name candidates.length) else throw .unwritable

/-- A dimension found for two values, each of which has to have a value to be reported. -/
def reported (a b : Value) (found : Except (Fault Number) Dimension) : Except Failure Value := do
  let d ← found
  let _ ← hasValue a
  let _ ← hasValue b
  return .dimension d

/-- The dimension of the product of what two values count as; the pair is looked up as a set. -/
def multiplyDimensions (relations : List Relation) (a b : Value) : Except Failure Value := do
  let _ ← a.hashKey
  let _ ← b.hashKey
  match a.asDimension?, b.asDimension? with
  | some d, some e => reported a b (FlightUnits.multiplyDimensions relations d e)
  | _, _ => throw (.unrelated .times a b)

/-- The dimension of the quotient of what two values count as. -/
def divideDimensions (relations : List Relation) (a b : Value) : Except Failure Value :=
  match a.asDimension?, b.asDimension? with
  | some d, some e => reported a b (FlightUnits.divideDimensions relations d e)
  | _, _ => .error (.unrelated .slash a b)

/-- The factor that a relation of values pairs with a value. -/
def otherFactor (left right factor : Value) : Value :=
  if factor.equal left then right else left

end FlightUnits.Script
