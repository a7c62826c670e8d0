import FlightUnits.Flight.Formula
import FlightUnits.Flight.Reference
import FlightUnits.Script.Argument
import FlightUnits.Script.Equality
import FlightUnits.Script.Operator

/-!
# Design formulae on values

The design formulae as scripts call them. A quantity is converted before the next one is looked at.
Where a formula takes a plain number, whatever counts as one will do; anything else goes through the
operators of the formula, and what comes out of them is refused as the value of a quantity.
-/

namespace FlightUnits.Script

variable (t : Tables Number)

/-- Two quantities, the first of which is converted to a unit before the second is looked at. -/
def pair (target : MeasureUnit) (a b : Value) :
    Except Failure (Quantity Number × Quantity Number) := do
  let p ← measured a
  let _ ← p.convert t.units target
  let q ← measured b
  return (p, q)

/-- The density of the air at an altitude relative to sea level. -/
def densityRatio (altitude : Value) : Except Failure Value := do
  let q ← measured altitude
  let ratio ← Flight.densityRatio t.units q
  return .number ratio

/-- The dynamic pressure at a velocity and an altitude. -/
def dynamicPressure (velocity altitude : Value) : Except Failure Value := do
  let p ← measured velocity
  let _ ← Flight.speedFactor t.units p
  let q ← measured altitude
  let pressure ← Flight.dynamicPressure t.units p q
  return .quantity pressure

/-- The number of seats that a value stands for. -/
def seats (v : Value) : Except Failure Flight.Seats :=
  if v.equal (.number (.int 1)) then .ok .one
  else if v.equal (.number (.int 2)) then .ok .two
  else .error (.seats v)

/-- The estimated gross weight for a number of seats and a payload. -/
def estimateGrossWeight (count payload : Value) : Except Failure Value := do
  let count ← seats count
  match payload.operand? with
  | some operand =>
    let result ← Flight.estimateGrossWeight t count operand
    return .ofOperand result
  | none => payload.operate t .slash (.number (Scalar.ofLiteral count.payloadFraction))

/-- The Reynolds number of a chord at a velocity. -/
def reynoldsNumber (chord velocity : Value) : Except Failure Value := do
  let (p, q) ← pair t .inch chord velocity
  let number ← Flight.reynoldsNumber t.units p q
  return .number number

/-- The stall speed of a weight on a wing area with a greatest lift coefficient. -/
def stallSpeed (grossWeight wingArea clMax : Value) : Except Failure Value := do
  let (p, q) ← pair t .pound grossWeight wingArea
  match clMax.asNumber? with
  | some cl =>
    let speed ← Flight.stallSpeed t.units p q cl
    return .quantity speed
  | none =>
    let loading ← Flight.wingLoading t.units p q
    let ratio ← (Value.number loading.value).operate t .slash clMax
    throw (.notReal ratio)

/-- The wing area that lifts a weight at a pressure or velocity. -/
def wingAreaRequired (grossWeight pressure clMax : Value) : Except Failure Value := do
  let (p, q) ← pair t .pound grossWeight pressure
  match clMax.asNumber? with
  | some cl =>
    let area ← Flight.wingAreaRequired t.units p q cl
    return .quantity area
  | none =>
    let pounds ← p.convert t.units .pound
    let psf ← Flight.pressureValue t.units q
    let lifted ← (Value.number psf).operate t .times clMax
    let area ← (Value.number pounds.value).operate t .slash lifted
    let result ← quantityIn .squareFoot area
    return .quantity result

/-- The lift coefficient that lifts a weight at a pressure or velocity on a wing area. -/
def liftCoefficient (grossWeight pressure wingArea : Value) : Except Failure Value := do
  let (weight, area) ← pair t .pound grossWeight wingArea
  let _ ← area.convert t.units .squareFoot
  let q ← measured pressure
  let cl ← Flight.liftCoefficient t.units weight q area
  return .number cl

/-- The lift of a wing area with a lift coefficient at a pressure or velocity. -/
def lift (cl wingArea pressure : Value) : Except Failure Value := do
  let (p, q) ← pair t .squareFoot wingArea pressure
  match cl.asNumber? with
  | some cl =>
    let force ← Flight.lift t.units cl p q
    return .quantity force
  | none =>
    let area ← p.convert t.units .squareFoot
    let psf ← Flight.pressureValue t.units q
    let lifted ← cl.operate t .times (.number area.value)
    let force ← lifted.operate t .times (.number psf)
    let result ← quantityIn .poundForce force
    return .quantity result

/-- The span of a wing with an area and a chord. -/
def wingSpan (wingArea chord : Value) : Except Failure Value := do
  let (p, q) ← pair t .squareFoot wingArea chord
  let span ← Flight.wingSpan t.units p q
  return .quantity span

/-- The chord of a wing with an area and a span. -/
def wingChord (wingArea span : Value) : Except Failure Value := do
  let (p, q) ← pair t .squareFoot wingArea span
  let chord ← Flight.wingChord t.units p q
  return .quantity chord

/-- The wing loading of a weight on a wing area. -/
def wingLoading (grossWeight wingArea : Value) : Except Failure Value := do
  let (p, q) ← pair t .pound grossWeight wingArea
  let loading ← Flight.wingLoading t.units p q
  return .quantity loading

/-- The aspect ratio of a span and a chord or an area. -/
def aspectRatio (span chordOrArea : Value) : Except Failure Value := do
  let (p, q) ← pair t .foot span chordOrArea
  let ratio ← Flight.aspectRatio t.units p q
  return .number ratio

/-- The value that a table of constants has for the member that a value identifies. -/
def constant {β : Type} (ofId? : String → Option β) (set : String) (table : β → Literal)
    (v : Value) : Except Failure Value := do
  let x ← member ofId? set v
  return .number (table x).stored

end FlightUnits.Script
