import FlightUnits.Arithmetic
import FlightUnits.Flight.Atmosphere

/-!
# Design formulae

The empirical formulae of the light plane designer's handbook. They are written in imperial units,
so every argument is converted to the unit that the formula expects, in the order of the arguments,
and results are in those units as well. Weight is a mass read as pounds. Where a formula takes a
dynamic pressure, a velocity stands for its dynamic pressure at sea level.
-/

namespace FlightUnits.Flight

variable {α : Type} [Scalar α]

/-- The product `0.00256 * v * v` of a velocity in mph, which the density ratio scales. -/
def speedFactor (t : UnitTable α) (velocity : Quantity α) : Except (Fault α) α := do
  let mph ← velocity.convert t .milePerHour
  let once ← Scalar.mul (Scalar.ofLiteral 0.00256) mph.value
  Scalar.mul once mph.value

/-- The dynamic pressure `0.00256 * v * v * sigma` in psf, with the velocity in mph. -/
def dynamicPressure (t : UnitTable α) (velocity altitude : Quantity α) :
    Except (Fault α) (Quantity α) := do
  let speed ← speedFactor t velocity
  let ratio ← densityRatio t altitude
  let psf ← Scalar.mul speed ratio
  return ⟨psf, .poundPerSquareFoot⟩

/-- The dynamic pressure in psf that a pressure, or a velocity at sea level, stands for. -/
def pressureValue (t : UnitTable α) (q : Quantity α) : Except (Fault α) α := do
  let dimension ← q.dimension t
  if dimension = .velocity then
    let pressure ← dynamicPressure t q seaLevel
    return pressure.value
  else
    let pressure ← q.convert t .poundPerSquareFoot
    return pressure.value

/-- The numbers of seats for which a gross weight is estimated. -/
inductive Seats where
  | one
  | two
deriving DecidableEq

namespace Seats

/-- The fraction of the gross weight that is payload. -/
def payloadFraction : Seats → Literal
  | one => 0.35
  | two => 0.40

end Seats

/-- The estimated gross weight for a payload of people, baggage and fuel, in its unit. -/
def estimateGrossWeight (t : Tables α) (seats : Seats) (payload : Operand α) :
    Except (Fault α) (Operand α) :=
  payload.divide t (.number (Scalar.ofLiteral seats.payloadFraction))

/-- The Reynolds number `778 * chord * velocity`, in inches and mph. -/
def reynoldsNumber (t : UnitTable α) (chord velocity : Quantity α) : Except (Fault α) α := do
  let inches ← chord.convert t .inch
  let mph ← velocity.convert t .milePerHour
  let along ← Scalar.mul (Scalar.ofLiteral 778) inches.value
  Scalar.mul along mph.value

/-- The stall speed `20 * sqrt (W / S / Cl)` in mph, with pounds and square feet. -/
def stallSpeed [SquareRoot α] (t : UnitTable α) (grossWeight wingArea : Quantity α) (clMax : α) :
    Except (Fault α) (Quantity α) := do
  let pounds ← grossWeight.convert t .pound
  let area ← wingArea.convert t .squareFoot
  let loading ← Scalar.div pounds.value area.value
  let ratio ← Scalar.div loading clMax
  let root ← SquareRoot.sqrt ratio
  let mph ← Scalar.mul (Scalar.ofLiteral 20) root
  return ⟨mph, .milePerHour⟩

/-- The wing area `W / (q * Cl)` in square feet that lifts a weight. -/
def wingAreaRequired (t : UnitTable α) (grossWeight pressure : Quantity α) (clMax : α) :
    Except (Fault α) (Quantity α) := do
  let pounds ← grossWeight.convert t .pound
  let psf ← pressureValue t pressure
  let lifted ← Scalar.mul psf clMax
  let area ← Scalar.div pounds.value lifted
  return ⟨area, .squareFoot⟩

/-- The lift coefficient `W / (q * S)` that lifts a weight. -/
def liftCoefficient (t : UnitTable α) (grossWeight pressure wingArea : Quantity α) :
    Except (Fault α) α := do
  let pounds ← grossWeight.convert t .pound
  let area ← wingArea.convert t .squareFoot
  let psf ← pressureValue t pressure
  let lifted ← Scalar.mul psf area.value
  Scalar.div pounds.value lifted

/-- The lift `Cl * S * q` in pounds force. -/
def lift (t : UnitTable α) (cl : α) (wingArea pressure : Quantity α) :
    Except (Fault α) (Quantity α) := do
  let area ← wingArea.convert t .squareFoot
  let psf ← pressureValue t pressure
  let lifted ← Scalar.mul cl area.value
  let force ← Scalar.mul lifted psf
  return ⟨force, .poundForce⟩

/-- The span in feet of a wing with an area and a chord. -/
def wingSpan (t : UnitTable α) (wingArea chord : Quantity α) : Except (Fault α) (Quantity α) := do
  let area ← wingArea.convert t .squareFoot
  let feet ← chord.convert t .foot
  let span ← Scalar.div area.value feet.value
  return ⟨span, .foot⟩

/-- The chord in feet of a wing with an area and a span. -/
def wingChord (t : UnitTable α) (wingArea span : Quantity α) : Except (Fault α) (Quantity α) := do
  let area ← wingArea.convert t .squareFoot
  let feet ← span.convert t .foot
  let chord ← Scalar.div area.value feet.value
  return ⟨chord, .foot⟩

/-- The wing loading `W / S` in psf. -/
def wingLoading (t : UnitTable α) (grossWeight wingArea : Quantity α) :
    Except (Fault α) (Quantity α) := do
  let pounds ← grossWeight.convert t .pound
  let area ← wingArea.convert t .squareFoot
  let loading ← Scalar.div pounds.value area.value
  return ⟨loading, .poundPerSquareFoot⟩

/-- The aspect ratio: span over chord for a chord, the squared span over the area for an area. -/
def aspectRatio (t : UnitTable α) (span chordOrArea : Quantity α) : Except (Fault α) α := do
  let feet ← span.convert t .foot
  let dimension ← chordOrArea.dimension t
  if dimension = .length then
    let chord ← chordOrArea.convert t .foot
    Scalar.div feet.value chord.value
  else
    let area ← chordOrArea.convert t .squareFoot
    let squared ← Scalar.square feet.value
    Scalar.div squared area.value

end FlightUnits.Flight
