import FlightUnits.Dimension
import FlightUnits.MeasureUnit
import FlightUnits.Number

/-!
# Quantities and operands

A quantity is a value with a unit; an operand of arithmetic is a plain value or a quantity. Both
are over any type of values.
-/

namespace FlightUnits

/-- A value tagged with a unit. -/
structure Quantity (α : Type) where
  value : α
  unit : MeasureUnit
deriving DecidableEq

namespace Quantity

/-- A quantity with its value under a function. -/
def map {α β : Type} (f : α → β) (q : Quantity α) : Quantity β := ⟨f q.value, q.unit⟩

/-- A quantity as it is printed: the value, a blank and the identifier of the unit. -/
def text (q : Quantity Number) : String := q.value.text ++ " " ++ q.unit.id

/-- Two quantities are one and the same when their units and their values are. -/
def isSame (p q : Quantity Number) : Bool := p.unit == q.unit && p.value.isSame q.value

end Quantity

/-- An operand of arithmetic: a plain value or a quantity. -/
inductive Operand (α : Type) where
  | number (x : α)
  | quantity (q : Quantity α)
deriving DecidableEq

namespace Operand

/-- The value of an operand, without its unit. -/
def value {α : Type} : Operand α → α
  | number x => x
  | quantity q => q.value

/-- An operand with its value under a function. -/
def map {α β : Type} (f : α → β) : Operand α → Operand β
  | number x => number (f x)
  | quantity q => quantity (q.map f)

end Operand

end FlightUnits
