import FlightUnits.Convert
import FlightUnits.Exchange
import FlightUnits.Listing
import FlightUnits.Script.Argument
import FlightUnits.Script.Hash
import FlightUnits.Script.Operator
import FlightUnits.Temperature

/-!
# Conversions of values

The conversions as scripts call them. What counts as a number goes through the conversion of the
unit; whatever else it is given goes through the operators of the conversion, so a quantity can go
through a scalar conversion and keep its unit. The one conversion with an offset is that of degrees
Fahrenheit.
-/

namespace FlightUnits.Script

/-- The quantity that a value is, expressed in the unit that another value names. -/
def convert (t : UnitTable Number) (v tag : Value) : Except Failure Value := do
  let q ← measured v
  let result ← (q.convertTo t tag.unitTag).mapError (blame tag)
  return .quantity result

/-- Degrees Celsius from degrees Fahrenheit. -/
def celsiusOfFahrenheit (t : Tables Number) (v : Value) : Except Failure Value := do
  match v.asNumber? with
  | some x =>
    let degrees ← FlightUnits.celsiusOfFahrenheit x
    return .number degrees
  | none =>
    let above ← v.operate t .minus (.number (Scalar.ofLiteral 32))
    (Value.number (Scalar.ofLiteral (5 / 9))).operate t .times above

/-- Degrees Fahrenheit from degrees Celsius. -/
def fahrenheitOfCelsius (t : Tables Number) (v : Value) : Except Failure Value := do
  match v.asNumber? with
  | some x =>
    let degrees ← FlightUnits.fahrenheitOfCelsius x
    return .number degrees
  | none =>
    let above ← (Value.number (Scalar.ofLiteral (9 / 5))).operate t .times v
    above.operate t .plus (.number (Scalar.ofLiteral 32))

/-- A value in a unit, expressed in the base unit. -/
def toBase (t : Tables Number) (tag v : Value) : Except Failure Value := do
  let u ← unit tag .null
  let entry ← t.units.lookup u ""
  match v.asNumber?, entry.conversion.factor? with
  | some x, _ =>
    let base ← entry.conversion.toBase x
    return .number base
  | none, some factor => v.operate t .times (.number factor)
  | none, none => celsiusOfFahrenheit t v

/-- A value in the base unit, expressed in a unit. -/
def fromBase (t : Tables Number) (tag v : Value) : Except Failure Value := do
  let u ← unit tag .null
  let entry ← t.units.lookup u ""
  match v.asNumber?, entry.conversion.factor? with
  | some x, _ =>
    let value ← entry.conversion.fromBase x
    return .number value
  | none, some factor => v.operate t .slash (.number factor)
  | none, none => fahrenheitOfCelsius t v

/-- The record of a quantity, or the real number that a value stands for. -/
def entryOf (v : Value) : Except Failure Value :=
  match v with
  | .quantity q =>
    match Request.quantityOf (.object [("value", q.value.toJson), ("unit", .text q.unit.id)]) with
    | .ok entry => .ok (.entry entry)
    | .error r => .error (.rejection r)
  | v => do
    let x ← real v
    return .number (.real x)

/-- The operand of a record, or the real number that a value stands for. -/
def operandOf (v : Value) : Except Failure Value := do
  let entry ← entryOf v
  match entry with
  | .entry q => return .quantity (q.map Number.real)
  | v => return v

/-- The quantity that a value is, looked at for an exchange: the value comes before the unit. -/
def exchanged (v : Value) : Except Failure (Quantity Number) := do
  let _ ← hasValue v
  measured v

/-- A quantity in the exchange converted there to a unit. -/
def exchangedTo (q : Quantity Number) (u : MeasureUnit) : Except Failure (Quantity Number) :=
  match Exchange.to? q u with
  | some result => result.mapError fun f => .fault (.arithmetic f)
  | none =>
    .error (.notExchangeable (Exchange.name q.unit) (Exchange.dimensionality q.unit)
      (Exchange.name u) (Exchange.dimensionality u))

/-- The unit under which the exchange knows a value. -/
def exchangeUnit (v : Value) : Except Failure MeasureUnit := do
  let _ ← v.hashKey
  match v.asUnit? with
  | some u => return u
  | none => throw (.noKey v)

/-- A quantity of the exchange expressed in the unit that a value names. -/
def takeBack (t : UnitTable Number) (q : Quantity Number) (tag : Value) : Except Failure Value := do
  let result ← (Exchange.takeBack t q tag.unitTag).mapError (blame tag)
  return .quantity result

/-- A quantity that goes through the exchange. -/
def throughExchange (t : UnitTable Number) (v tag : Value) : Except Failure Value := do
  let q ← exchanged v
  takeBack t q tag

/-- A quantity that goes through the exchange by way of another unit there. -/
def throughExchangeVia (t : UnitTable Number) (v middle tag : Value) : Except Failure Value := do
  let q ← exchanged v
  let u ← exchangeUnit middle
  let q ← exchangedTo q u
  takeBack t q tag

end FlightUnits.Script
