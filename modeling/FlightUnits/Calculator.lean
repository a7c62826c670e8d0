import FlightUnits.Flight.Formula
import FlightUnits.Json.Basic
import FlightUnits.Request.Basic

/-!
# The calculator

Evaluates requests. A calculation is the named operation on its operands, refused when the value of
the result is infinite or not a number; the result tells the dimension and the description of its
unit as well. A conversion gives its source back beside the result, and neither it nor a formula is
refused for its value.
-/

namespace FlightUnits

/-- A quantity of double precision as a JSON tree. -/
def Quantity.toJson (q : Quantity Binary64) : Json :=
  .object [("value", .real q.value), ("unit", .text q.unit.id)]

/-- An operand of double precision as a JSON tree. -/
def Operand.toJson : Operand Binary64 → Json
  | number x => .real x
  | quantity q => q.toJson

/-- The result of a calculation; a plain number has no dimension and no description. -/
structure CalculationResult where
  operation : Operation
  result : Operand Binary64
  dimension : Option Dimension
  description : Option String
deriving DecidableEq

/-- The result of a conversion. -/
structure ConversionResult where
  source : Quantity Binary64
  result : Quantity Binary64
  dimension : Dimension
deriving DecidableEq

namespace CalculationRequest

/-- The operand that a calculation comes to. -/
def evaluate (t : Tables Number) : CalculationRequest → Except (Fault Number) (Operand Number)
  | negate a => .ok (a.map Number.real).negate
  | combine symbol a b => Operand.apply t symbol (a.map Number.real) (b.map Number.real)

end CalculationRequest

/-- The result of a calculation. -/
def calculate (t : Tables Number) (request : CalculationRequest) :
    Except (Fault Number) CalculationResult := do
  let result ← request.evaluate t
  if !result.value.isFinite then throw (.nonFinite request.operation result.value)
  else
    match result with
    | .number x => return ⟨request.operation, .number x.nearest, none, none⟩
    | .quantity q =>
      let dimension ← q.dimension t.units
      let description ← q.description t.units
      return ⟨request.operation, .quantity (q.map Number.nearest), some dimension,
        some description⟩

/-- The result of a conversion. -/
def convertQuantity (t : UnitTable Number) (request : ConvertRequest) :
    Except (Fault Number) ConversionResult := do
  let result ← (request.quantity.map Number.real).convert t request.target
  let dimension ← result.dimension t
  return ⟨request.quantity, result.map Number.nearest, dimension⟩

/-- The dynamic pressure that a request asks for. -/
def answerPressure (t : UnitTable Number) (request : DynamicPressureRequest) :
    Except (Fault Number) (Quantity Binary64) := do
  let altitude := (request.altitude.map (Quantity.map Number.real)).getD Flight.seaLevel
  let pressure ← Flight.dynamicPressure t (request.velocity.map Number.real) altitude
  return pressure.map Number.nearest

/-- The stall speed that a request asks for. -/
def answerStallSpeed (t : UnitTable Number) (request : StallSpeedRequest) :
    Except (Fault Number) (Quantity Binary64) := do
  let speed ← Flight.stallSpeed t (request.grossWeight.map Number.real)
    (request.wingArea.map Number.real) (.real request.clMax)
  return speed.map Number.nearest

/-- The result of a calculation as a JSON tree. -/
def CalculationResult.toJson (r : CalculationResult) : Json :=
  .object [
    ("operation", .text r.operation.id),
    ("result", r.result.toJson),
    ("dimension", (r.dimension.map fun d => Json.text d.id).getD .null),
    ("description", (r.description.map Json.text).getD .null)]

/-- The result of a conversion as a JSON tree. -/
def ConversionResult.toJson (r : ConversionResult) : Json :=
  .object [
    ("source", r.source.toJson),
    ("result", r.result.toJson),
    ("dimension", .text r.dimension.id)]

end FlightUnits
