import FlightUnits.Scalar

/-!
# Temperatures

The conversions between degrees Fahrenheit and degrees Celsius, which need an offset.
-/

namespace FlightUnits

variable {α : Type} [Scalar α]

/-- Degrees Celsius from degrees Fahrenheit: `5 / 9 * (f - 32)`. -/
def celsiusOfFahrenheit (f : α) : Except ArithmeticFault α := do
  let above ← Scalar.sub f (Scalar.ofLiteral 32)
  Scalar.mul (Scalar.ofLiteral (5 / 9)) above

/-- Degrees Fahrenheit from degrees Celsius: `9 / 5 * c + 32`. -/
def fahrenheitOfCelsius (c : α) : Except ArithmeticFault α := do
  let above ← Scalar.mul (Scalar.ofLiteral (9 / 5)) c
  Scalar.add above (Scalar.ofLiteral 32)

end FlightUnits
