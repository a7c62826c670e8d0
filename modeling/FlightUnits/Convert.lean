import FlightUnits.Registry

/-!
# Conversion between units

A quantity is converted to another unit of its dimension by way of the base unit, and the result is
rounded to fourteen decimal places. A conversion to the unit that the quantity already has returns
the quantity unchanged, without rounding.
-/

namespace FlightUnits

/-- The number of decimal places of a converted value. -/
def convertedPlaces : Nat := 14

namespace Quantity

variable {α : Type} [Scalar α]

/-- The quantity expressed in the unit `target`. -/
def convert (t : UnitTable α) (q : Quantity α) (target : MeasureUnit) :
    Except (Fault α) (Quantity α) := do
  let source ← t.lookup q.unit "source"
  let goal ← t.lookup target "destination"
  if source.dimension ≠ goal.dimension then
    throw (.dimensionMismatch source.description source.dimension.id goal.description
      goal.dimension.id)
  else if target = q.unit then
    return q
  else
    let base ← source.conversion.toBase q.value
    let value ← goal.conversion.fromBase base
    return ⟨Scalar.roundPlaces convertedPlaces value, target⟩

/-- The quantity expressed in the unit that a tag names. -/
def convertTo (t : UnitTable α) (q : Quantity α) (target : UnitTag) :
    Except (Fault α) (Quantity α) := do
  let _ ← t.lookup q.unit "source"
  let unit ← target.resolve "destination"
  q.convert t unit

end Quantity

end FlightUnits
