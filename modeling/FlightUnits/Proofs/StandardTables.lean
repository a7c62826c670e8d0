import FlightUnits.Proofs.FallibleSteps
import FlightUnits.Standard

/-!
# What the standard tables hold

Every unit has an entry in the standard table, whose dimension does not depend on the type of
values, and every dimension has one base unit. The base units are found by comparing factors with
one, so that they are found holds only of scalars that tell the factors of the table from one:
`Standard.FindsBases` says so, of exact and of machine numbers.
-/

namespace FlightUnits

namespace Standard

section Entries

variable {α : Type} [Scalar α]

lemma isSome_find? (u : MeasureUnit) : ((units : UnitTable α).find? u).isSome := by
  cases u <;> rfl

/-- The entry of a unit in the standard table. -/
def entry (u : MeasureUnit) : Descriptor α := ((units : UnitTable α).find? u).get (isSome_find? u)

/-- The dimension of a unit in the standard table. -/
def dimension (u : MeasureUnit) : Dimension := (entry u : Descriptor Rat).dimension

/-- The description of a unit in the standard table. -/
def description (u : MeasureUnit) : String := (entry u : Descriptor Rat).description

@[simp] lemma find?_units (u : MeasureUnit) : (units : UnitTable α).find? u = some (entry u) := by
  rw [entry, Option.some_get]

@[simp] lemma lookup_units (u : MeasureUnit) (role : String) :
    (units : UnitTable α).lookup u role = .ok (entry u) := by
  rw [UnitTable.lookup, find?_units]

@[simp] lemma dimension_entry (u : MeasureUnit) :
    (entry u : Descriptor α).dimension = dimension u := by
  cases u <;> rfl

@[simp] lemma description_entry (u : MeasureUnit) :
    (entry u : Descriptor α).description = description u := by
  cases u <;> rfl

lemma dimension_quantity (q : Quantity α) : q.dimension units = .ok (dimension q.unit) := by
  rw [Quantity.dimension, lookup_units, Except.map, dimension_entry]

lemma description_quantity (q : Quantity α) :
    q.description units = .ok (description q.unit) := by
  rw [Quantity.description, lookup_units, Except.map, description_entry]

@[simp] lemma units_tables : (tables : Tables α).units = units := rfl

@[simp] lemma relations_tables : (tables : Tables α).relations = relations := rfl

end Entries

/-- The base unit of a dimension in the standard table. -/
def baseUnit : Dimension → MeasureUnit
  | .mass => .kilogram
  | .length => .metre
  | .time => .second
  | .area => .squareMetre
  | .volume => .cubicMetre
  | .velocity => .metrePerSecond
  | .acceleration => .metrePerSecondSquared
  | .force => .newton
  | .pressure => .pascal
  | .power => .watt
  | .energy => .joule
  | .density => .kilogramPerCubicMetre
  | .moment => .newtonMetre
  | .temperature => .celsius

@[simp] lemma dimension_baseUnit (d : Dimension) : dimension (baseUnit d) = d := by
  cases d <;> rfl

lemma baseUnit_ne_fahrenheit (d : Dimension) : baseUnit d ≠ .fahrenheit := by
  cases d <;> decide

/-- Scalars over which the standard table has the base unit of every dimension. -/
class FindsBases (α : Type) [Scalar α] : Prop where
  baseUnits_units : ∀ d, (units : UnitTable α).baseUnits d = [baseUnit d]

instance : FindsBases Rat where
  baseUnits_units d := by cases d <;> decide +kernel

instance : FindsBases Number where
  baseUnits_units d := by cases d <;> decide +kernel

@[simp] lemma baseUnitOf_units {α : Type} [Scalar α] [FindsBases α] (d : Dimension) :
    (units : UnitTable α).baseUnitOf d = .ok (baseUnit d) := by
  rw [UnitTable.baseUnitOf, FindsBases.baseUnits_units]

end Standard

end FlightUnits
