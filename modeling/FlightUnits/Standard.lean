import FlightUnits.Registry
import FlightUnits.Temperature

/-!
# The standard tables

The units and relations of the light plane designer's handbook. Factors are the handbook's rounded
values, not exact definitions. Force times length is a moment and not an energy, so that each pair
of factors has one product; energy is power times time. Celsius is the base unit of temperature,
and Fahrenheit is the one unit with an offset.
-/

namespace FlightUnits.Standard

variable {α : Type} [Scalar α]

/-- The conversion of a unit with a constant factor. -/
def factor (a : Literal) : Conversion α := .scalar (Scalar.ofLiteral a.real)

/-- The entries of the standard unit table. -/
def entries : List (MeasureUnit × Descriptor α) := [
  (.kilogram, ⟨.mass, factor 1.0, "kilograms"⟩),
  (.gram, ⟨.mass, factor 0.001, "grams"⟩),
  (.pound, ⟨.mass, factor 0.45359237, "pounds"⟩),
  (.slug, ⟨.mass, factor (32.174049 * 0.45359237), "slugs"⟩),
  (.ounce, ⟨.mass, factor 0.02835, "ounces"⟩),
  (.metre, ⟨.length, factor 1.0, "metres"⟩),
  (.centimetre, ⟨.length, factor 0.01, "centimetres"⟩),
  (.millimetre, ⟨.length, factor 0.001, "millimetres"⟩),
  (.foot, ⟨.length, factor 0.3048, "feet"⟩),
  (.inch, ⟨.length, factor 0.0254, "inches"⟩),
  (.second, ⟨.time, factor 1.0, "seconds"⟩),
  (.minute, ⟨.time, factor 60.0, "minutes"⟩),
  (.hour, ⟨.time, factor 3600.0, "hours"⟩),
  (.squareMetre, ⟨.area, factor 1.0, "square metres"⟩),
  (.squareFoot, ⟨.area, factor (1 / 10.76), "square feet"⟩),
  (.squareInch, ⟨.area, factor (1 / (10.76 * 144)), "square inches"⟩),
  (.cubicMetre, ⟨.volume, factor 1.0, "cubic metres"⟩),
  (.litre, ⟨.volume, factor 0.001, "litres"⟩),
  (.cubicFoot, ⟨.volume, factor 0.028, "cubic feet"⟩),
  (.cubicInch, ⟨.volume, factor (1 / 61023.744), "cubic inches"⟩),
  (.gallon, ⟨.volume, factor 0.003785, "US gallons"⟩),
  (.metrePerSecond, ⟨.velocity, factor 1.0, "metres per second"⟩),
  (.milePerHour, ⟨.velocity, factor 0.45, "miles per hour"⟩),
  (.knot, ⟨.velocity, factor 0.51, "knots"⟩),
  (.kilometrePerHour, ⟨.velocity, factor (1 / 3.6), "kilometres per hour"⟩),
  (.metrePerSecondSquared, ⟨.acceleration, factor 1.0, "metres per second squared"⟩),
  (.footPerSecondSquared, ⟨.acceleration, factor 0.3048, "feet per second squared"⟩),
  (.newton, ⟨.force, factor 1.0, "newtons"⟩),
  (.poundForce, ⟨.force, factor 4.448222, "pound force"⟩),
  (.pascal, ⟨.pressure, factor 1.0, "pascals"⟩),
  (.kilopascal, ⟨.pressure, factor 1000, "kilopascals"⟩),
  (.poundPerSquareInch, ⟨.pressure, factor 6895, "pounds per square inch"⟩),
  (.poundPerSquareFoot, ⟨.pressure, factor 47.8803, "pounds per square foot"⟩),
  (.inchOfMercury, ⟨.pressure, factor 3390, "inches of mercury"⟩),
  (.watt, ⟨.power, factor 1.0, "watts"⟩),
  (.kilowatt, ⟨.power, factor 1000, "kilowatts"⟩),
  (.horsepower, ⟨.power, factor 746, "horsepower"⟩),
  (.joule, ⟨.energy, factor 1.0, "joules"⟩),
  (.kilojoule, ⟨.energy, factor 1000, "kilojoules"⟩),
  (.kilowattHour, ⟨.energy, factor 3.6e6, "kilowatt hours"⟩),
  (.kilogramPerCubicMetre, ⟨.density, factor 1.0, "kilograms per cubic metre"⟩),
  (.slugPerCubicFoot, ⟨.density, factor 515.378818, "slugs per cubic foot"⟩),
  (.newtonMetre, ⟨.moment, factor 1.0, "newton metres"⟩),
  (.poundFoot, ⟨.moment, factor 1.3558179483314004, "pound feet"⟩),
  (.celsius, ⟨.temperature, factor 1.0, "degrees centigrade"⟩),
  (.fahrenheit,
    ⟨.temperature, .affine celsiusOfFahrenheit fahrenheitOfCelsius, "degrees fahrenheit"⟩)]

/-- Every unit has an entry, in the order in which units are listed. -/
theorem map_fst_entries :
    (entries : List (MeasureUnit × Descriptor α)).map Prod.fst = MeasureUnit.all := rfl

/-- The standard unit table. -/
def units : UnitTable α where
  entries := entries
  nodup := by rw [map_fst_entries]; exact MeasureUnit.nodup_all

/-- The standard relations between dimensions. -/
def relations : List Relation := [
  ⟨.area, .length, .length⟩,
  ⟨.energy, .power, .time⟩,
  ⟨.force, .mass, .acceleration⟩,
  ⟨.force, .pressure, .area⟩,
  ⟨.length, .velocity, .time⟩,
  ⟨.mass, .volume, .density⟩,
  ⟨.moment, .length, .force⟩,
  ⟨.power, .force, .velocity⟩,
  ⟨.velocity, .acceleration, .time⟩,
  ⟨.volume, .area, .length⟩]

/-- The standard tables. -/
def tables : Tables α := ⟨units, relations⟩

/-- The standard tables for machine arithmetic. -/
def machineTables : Tables Number := tables

end FlightUnits.Standard
