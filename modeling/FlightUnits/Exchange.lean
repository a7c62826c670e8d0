import FlightUnits.Convert
import FlightUnits.Exponents

/-!
# Exchange with precise unit definitions

A second system of the same units, with their precise international definitions in place of the
handbook's rounded factors. A quantity goes over with its value unchanged; coming back it is
converted by the precise definition, made a real number and rounded like any conversion. Two units
are convertible here when their physical dimensionality agrees, so energies and moments convert
into each other. For machine numbers the factor between two units is the stored one of the table.
-/

namespace FlightUnits.Exchange

/-- The international foot, in metres. -/
def foot : Rat := 3048 / 10000

/-- The international inch, in metres. -/
def inch : Rat := 254 / 10000

/-- The international pound, in kilograms. -/
def pound : Rat := 45359237 / 100000000

/-- Standard gravity, in metres per second squared. -/
def gravity : Rat := 980665 / 100000

/-- The pound force, in newtons. -/
def poundForce : Rat := pound * gravity

/-- The slug, in kilograms. -/
def slug : Rat := poundForce / foot

/-- The conventional density of mercury, in kilograms per cubic metre. -/
def mercuryDensity : Rat := 135951 / 10

/-- The size of a unit in SI units; for temperatures the size of a degree. -/
def size : MeasureUnit → Rat
  | .kilogram => 1
  | .gram => 1 / 1000
  | .pound => pound
  | .slug => slug
  | .ounce => pound / 16
  | .metre => 1
  | .centimetre => 1 / 100
  | .millimetre => 1 / 1000
  | .foot => foot
  | .inch => inch
  | .second => 1
  | .minute => 60
  | .hour => 3600
  | .squareMetre => 1
  | .squareFoot => foot * foot
  | .squareInch => inch * inch
  | .cubicMetre => 1
  | .litre => 1 / 1000
  | .cubicFoot => foot * foot * foot
  | .cubicInch => inch * inch * inch
  | .gallon => 231 * (inch * inch * inch)
  | .metrePerSecond => 1
  | .milePerHour => 5280 * foot / 3600
  | .knot => 1852 / 3600
  | .kilometrePerHour => 1000 / 3600
  | .metrePerSecondSquared => 1
  | .footPerSecondSquared => foot
  | .newton => 1
  | .poundForce => poundForce
  | .pascal => 1
  | .kilopascal => 1000
  | .poundPerSquareInch => poundForce / (inch * inch)
  | .poundPerSquareFoot => poundForce / (foot * foot)
  | .inchOfMercury => inch * mercuryDensity * gravity
  | .watt => 1
  | .kilowatt => 1000
  | .horsepower => 550 * foot * poundForce
  | .joule => 1
  | .kilojoule => 1000
  | .kilowattHour => 3600000
  | .kilogramPerCubicMetre => 1
  | .slugPerCubicFoot => slug / (foot * foot * foot)
  | .newtonMetre => 1
  | .poundFoot => foot * poundForce
  | .celsius => 1
  | .fahrenheit => 5 / 9

/-- The dimension of a unit by its definition. -/
def dimension : MeasureUnit → Dimension
  | .kilogram => .mass
  | .gram => .mass
  | .pound => .mass
  | .slug => .mass
  | .ounce => .mass
  | .metre => .length
  | .centimetre => .length
  | .millimetre => .length
  | .foot => .length
  | .inch => .length
  | .second => .time
  | .minute => .time
  | .hour => .time
  | .squareMetre => .area
  | .squareFoot => .area
  | .squareInch => .area
  | .cubicMetre => .volume
  | .litre => .volume
  | .cubicFoot => .volume
  | .cubicInch => .volume
  | .gallon => .volume
  | .metrePerSecond => .velocity
  | .milePerHour => .velocity
  | .knot => .velocity
  | .kilometrePerHour => .velocity
  | .metrePerSecondSquared => .acceleration
  | .footPerSecondSquared => .acceleration
  | .newton => .force
  | .poundForce => .force
  | .pascal => .pressure
  | .kilopascal => .pressure
  | .poundPerSquareInch => .pressure
  | .poundPerSquareFoot => .pressure
  | .inchOfMercury => .pressure
  | .watt => .power
  | .kilowatt => .power
  | .horsepower => .power
  | .joule => .energy
  | .kilojoule => .energy
  | .kilowattHour => .energy
  | .kilogramPerCubicMetre => .density
  | .slugPerCubicFoot => .density
  | .newtonMetre => .moment
  | .poundFoot => .moment
  | .celsius => .temperature
  | .fahrenheit => .temperature

/-- The name of a unit. -/
def name : MeasureUnit → String
  | .kilogram => "kilogram"
  | .gram => "gram"
  | .pound => "pound"
  | .slug => "slug"
  | .ounce => "ounce"
  | .metre => "meter"
  | .centimetre => "centimeter"
  | .millimetre => "millimeter"
  | .foot => "foot"
  | .inch => "inch"
  | .second => "second"
  | .minute => "minute"
  | .hour => "hour"
  | .squareMetre => "meter ** 2"
  | .squareFoot => "foot ** 2"
  | .squareInch => "inch ** 2"
  | .cubicMetre => "meter ** 3"
  | .litre => "liter"
  | .cubicFoot => "foot ** 3"
  | .cubicInch => "inch ** 3"
  | .gallon => "gallon"
  | .metrePerSecond => "meter / second"
  | .milePerHour => "mile / hour"
  | .knot => "knot"
  | .kilometrePerHour => "kilometer / hour"
  | .metrePerSecondSquared => "meter / second ** 2"
  | .footPerSecondSquared => "foot / second ** 2"
  | .newton => "newton"
  | .poundForce => "force_pound"
  | .pascal => "pascal"
  | .kilopascal => "kilopascal"
  | .poundPerSquareInch => "pound_force_per_square_inch"
  | .poundPerSquareFoot => "force_pound / foot ** 2"
  | .inchOfMercury => "inch_Hg"
  | .watt => "watt"
  | .kilowatt => "kilowatt"
  | .horsepower => "horsepower"
  | .joule => "joule"
  | .kilojoule => "kilojoule"
  | .kilowattHour => "kilowatt_hour"
  | .kilogramPerCubicMetre => "kilogram / meter ** 3"
  | .slugPerCubicFoot => "slug / foot ** 3"
  | .newtonMetre => "meter * newton"
  | .poundFoot => "foot * force_pound"
  | .celsius => "degree_Celsius"
  | .fahrenheit => "degree_Fahrenheit"

/-- The dimensionality of a unit as it is written. -/
def dimensionality : MeasureUnit → String
  | .kilogram => "[mass]"
  | .gram => "[mass]"
  | .pound => "[mass]"
  | .slug => "[mass]"
  | .ounce => "[mass]"
  | .metre => "[length]"
  | .centimetre => "[length]"
  | .millimetre => "[length]"
  | .foot => "[length]"
  | .inch => "[length]"
  | .second => "[time]"
  | .minute => "[time]"
  | .hour => "[time]"
  | .squareMetre => "[length] ** 2"
  | .squareFoot => "[length] ** 2"
  | .squareInch => "[length] ** 2"
  | .cubicMetre => "[length] ** 3"
  | .litre => "[length] ** 3"
  | .cubicFoot => "[length] ** 3"
  | .cubicInch => "[length] ** 3"
  | .gallon => "[length] ** 3"
  | .metrePerSecond => "[length] / [time]"
  | .milePerHour => "[length] / [time]"
  | .knot => "[length] / [time]"
  | .kilometrePerHour => "[length] / [time]"
  | .metrePerSecondSquared => "[length] / [time] ** 2"
  | .footPerSecondSquared => "[length] / [time] ** 2"
  | .newton => "[mass] * [length] / [time] ** 2"
  | .poundForce => "[length] * [mass] / [time] ** 2"
  | .pascal => "[mass] / [length] / [time] ** 2"
  | .kilopascal => "[mass] / [length] / [time] ** 2"
  | .poundPerSquareInch => "[mass] / [length] / [time] ** 2"
  | .poundPerSquareFoot => "[mass] / [length] / [time] ** 2"
  | .inchOfMercury => "[mass] / [length] / [time] ** 2"
  | .watt => "[mass] * [length] ** 2 / [time] ** 3"
  | .kilowatt => "[mass] * [length] ** 2 / [time] ** 3"
  | .horsepower => "[length] ** 2 * [mass] / [time] ** 3"
  | .joule => "[mass] * [length] ** 2 / [time] ** 2"
  | .kilojoule => "[mass] * [length] ** 2 / [time] ** 2"
  | .kilowattHour => "[mass] * [length] ** 2 / [time] ** 2"
  | .kilogramPerCubicMetre => "[mass] / [length] ** 3"
  | .slugPerCubicFoot => "[mass] / [length] ** 3"
  | .newtonMetre => "[mass] * [length] ** 2 / [time] ** 2"
  | .poundFoot => "[length] ** 2 * [mass] / [time] ** 2"
  | .celsius => "[temperature]"
  | .fahrenheit => "[temperature]"

/-- The factors from a unit to the others of its dimensionality, as they are stored. -/
def storedFactors : MeasureUnit → List (MeasureUnit × Literal)
  | .kilogram => [(.gram, 1000.0), (.pound, 2.2046226218487757), (.slug, 0.06852176585679173),
      (.ounce, 35.27396194958041)]
  | .gram => [(.kilogram, 0.001), (.pound, 0.002204622621848776), (.slug, 6.852176585679175e-05),
      (.ounce, 0.035273961949580414)]
  | .pound => [(.kilogram, 0.4535923700000001), (.gram, 453.5923700000001),
      (.slug, 0.03108095017156725), (.ounce, 16.0)]
  | .slug => [(.kilogram, 14.59390293720637), (.gram, 14593.902937206369),
      (.pound, 32.17404855643045), (.ounce, 514.7847769028872)]
  | .ounce => [(.kilogram, 0.028349523125000005), (.gram, 28.349523125000005), (.pound, 0.0625),
      (.slug, 0.001942559385722953)]
  | .metre => [(.centimetre, 100.0), (.millimetre, 1000.0), (.foot, 3.2808398950131235),
      (.inch, 39.37007874015748)]
  | .centimetre => [(.metre, 0.01), (.millimetre, 10.0), (.foot, 0.03280839895013123),
      (.inch, 0.3937007874015748)]
  | .millimetre => [(.metre, 0.001), (.centimetre, 0.1), (.foot, 0.0032808398950131233),
      (.inch, 0.03937007874015749)]
  | .foot => [(.metre, 0.30479999999999996), (.centimetre, 30.479999999999997),
      (.millimetre, 304.79999999999995), (.inch, 12.0)]
  | .inch => [(.metre, 0.0254), (.centimetre, 2.54), (.millimetre, 25.4),
      (.foot, 0.08333333333333333)]
  | .second => [(.minute, 0.016666666666666666), (.hour, 0.0002777777777777778)]
  | .minute => [(.second, 60), (.hour, 0.016666666666666666)]
  | .hour => [(.second, 3600), (.minute, 60)]
  | .squareMetre => [(.squareFoot, 10.763910416709724), (.squareInch, 1550.0031000062002)]
  | .squareFoot => [(.squareMetre, 0.09290303999999999), (.squareInch, 144.00000000000003)]
  | .squareInch => [(.squareMetre, 0.00064516), (.squareFoot, 0.006944444444444446)]
  | .cubicMetre => [(.litre, 999.9999999999999), (.cubicFoot, 35.3146667214886),
      (.cubicInch, 61023.7440947323), (.gallon, 264.1720523581485)]
  | .litre => [(.cubicMetre, 0.0010000000000000002), (.cubicFoot, 0.035314666721488606),
      (.cubicInch, 61.023744094732315), (.gallon, 0.26417205235814856)]
  | .cubicFoot => [(.cubicMetre, 0.028316846591999994), (.litre, 28.31684659199999),
      (.cubicInch, 1727.9999999999998), (.gallon, 7.4805194805194795)]
  | .cubicInch => [(.cubicMetre, 1.6387063999999996e-05), (.litre, 0.016387063999999993),
      (.cubicFoot, 0.0005787037037037037), (.gallon, 0.004329004329004329)]
  | .gallon => [(.cubicMetre, 0.0037854117839999993), (.litre, 3.785411783999999),
      (.cubicFoot, 0.13368055555555555), (.cubicInch, 231)]
  | .metrePerSecond => [(.milePerHour, 2.2369362920544025), (.knot, 1.9438444924406049),
      (.kilometrePerHour, 3.6)]
  | .milePerHour => [(.metrePerSecond, 0.44704), (.knot, 0.868976241900648),
      (.kilometrePerHour, 1.609344)]
  | .knot => [(.metrePerSecond, 0.5144444444444445), (.milePerHour, 1.1507794480235425),
      (.kilometrePerHour, 1.852)]
  | .kilometrePerHour => [(.metrePerSecond, 0.2777777777777778), (.milePerHour, 0.621371192237334),
      (.knot, 0.5399568034557236)]
  | .metrePerSecondSquared => [(.footPerSecondSquared, 3.2808398950131235)]
  | .footPerSecondSquared => [(.metrePerSecondSquared, 0.30479999999999996)]
  | .newton => [(.poundForce, 0.22480894309971053)]
  | .poundForce => [(.newton, 4.4482216152605005)]
  | .pascal => [(.kilopascal, 0.001), (.poundPerSquareInch, 0.0001450377377302092),
      (.poundPerSquareFoot, 0.02088543423315013), (.inchOfMercury, 0.00029529983301010095)]
  | .kilopascal => [(.pascal, 1000.0), (.poundPerSquareInch, 0.1450377377302092),
      (.poundPerSquareFoot, 20.885434233150125), (.inchOfMercury, 0.29529983301010093)]
  | .poundPerSquareInch => [(.pascal, 6894.7572931683635), (.kilopascal, 6.894757293168363),
      (.poundPerSquareFoot, 144.00000000000003), (.inchOfMercury, 2.036020677317793)]
  | .poundPerSquareFoot => [(.pascal, 47.88025898033586), (.kilopascal, 0.047880258980335856),
      (.poundPerSquareInch, 0.006944444444444446), (.inchOfMercury, 0.014139032481373565)]
  | .inchOfMercury => [(.pascal, 3386.3886403409997), (.kilopascal, 3.386388640341),
      (.poundPerSquareInch, 0.49115414747033753), (.poundPerSquareFoot, 70.72619723572862)]
  | .watt => [(.kilowatt, 0.001), (.horsepower, 0.0013410220895950279)]
  | .kilowatt => [(.watt, 1000.0), (.horsepower, 1.3410220895950282)]
  | .horsepower => [(.watt, 745.6998715822701), (.kilowatt, 0.7456998715822701)]
  | .joule => [(.kilojoule, 0.001), (.kilowattHour, 2.7777777777777776e-07), (.newtonMetre, 1),
      (.poundFoot, 0.7375621492772655)]
  | .kilojoule => [(.joule, 1000.0), (.kilowattHour, 0.0002777777777777778), (.newtonMetre, 1000.0),
      (.poundFoot, 737.5621492772653)]
  | .kilowattHour => [(.joule, 3600000.0), (.kilojoule, 3600), (.newtonMetre, 3600000.0),
      (.poundFoot, 2655223.7373981555)]
  | .kilogramPerCubicMetre => [(.slugPerCubicFoot, 0.0019403203319797151)]
  | .slugPerCubicFoot => [(.kilogramPerCubicMetre, 515.3788183931964)]
  | .newtonMetre => [(.joule, 1.0), (.kilojoule, 0.001), (.kilowattHour, 2.7777777777777776e-07),
      (.poundFoot, 0.7375621492772655)]
  | .poundFoot => [(.joule, 1.3558179483314006), (.kilojoule, 0.0013558179483314004),
      (.kilowattHour, 3.766160967587223e-07), (.newtonMetre, 1.3558179483314006)]
  | .celsius => []
  | .fahrenheit => []

/-- Whether two units have the same physical dimensionality. -/
def compatible (u v : MeasureUnit) : Bool :=
  (dimension u).exponents == (dimension v).exponents

/-- The factor from one unit to another that is stored for machine numbers. -/
def storedFactor (u v : MeasureUnit) : Number :=
  match (storedFactors u).lookup v with
  | some factor => factor.stored
  | none => .int 1

/-- The factor from one unit to another. -/
def factor (u v : MeasureUnit) : Literal := ⟨size u / size v, storedFactor u v⟩

/-- The freezing point of water in kelvins. -/
def celsiusOffset : Literal := 273.15

/-- The zero of the Fahrenheit scale in kelvins. -/
def fahrenheitOffset : Literal := ⟨45967 / 180, (255.37222222222223 : Literal).stored⟩

/-- A degree Fahrenheit in kelvins. -/
def fahrenheitDegree : Literal := ⟨5 / 9, (0.5555555555555556 : Literal).stored⟩

variable {α : Type} [Scalar α]

/-- A temperature by way of kelvins: `(x * degree + offset - goalOffset) / goalDegree`. -/
def viaKelvin (degree offset goalOffset goalDegree : Literal) (x : α) :
    Except ArithmeticFault α := do
  let degrees ← Scalar.mul x (Scalar.ofLiteral degree)
  let kelvins ← Scalar.add degrees (Scalar.ofLiteral offset)
  let above ← Scalar.sub kelvins (Scalar.ofLiteral goalOffset)
  Scalar.div above (Scalar.ofLiteral goalDegree)

/-- The value of a quantity in another unit of its dimensionality, not rounded. -/
def value (q : Quantity α) (target : MeasureUnit) : Except ArithmeticFault α :=
  if q.unit = target then .ok q.value
  else if q.unit = .celsius then
    viaKelvin 1 celsiusOffset fahrenheitOffset fahrenheitDegree q.value
  else if q.unit = .fahrenheit then
    viaKelvin fahrenheitDegree fahrenheitOffset celsiusOffset 1 q.value
  else Scalar.mul q.value (Scalar.ofLiteral (factor q.unit target))

/-- The quantity in another unit, when the dimensionalities agree. -/
def to? (q : Quantity α) (target : MeasureUnit) : Option (Except ArithmeticFault (Quantity α)) :=
  if compatible q.unit target then some ((value q target).map fun x => ⟨x, target⟩) else none

/-- A quantity taken back from the exchange in the unit that a tag names. -/
def takeBack (t : UnitTable α) (q : Quantity α) (target : UnitTag) :
    Except (Fault α) (Quantity α) := do
  let unit ← target.resolve "destination"
  let goal ← t.lookup unit ""
  match to? q unit with
  | none =>
    throw (.dimensionMismatch (name q.unit) (dimensionality q.unit) goal.description
      goal.dimension.id)
  | some result =>
    let converted ← result
    let real ← Scalar.toReal converted.value
    return ⟨Scalar.roundPlaces convertedPlaces real, unit⟩

end FlightUnits.Exchange
