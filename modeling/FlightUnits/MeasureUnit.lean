/-!
# Units of measure

The closed set of units, each with the identifier it is written by. Which dimension a unit belongs
to and how it converts is no part of the unit: that is what a unit table says. A `UnitTag` is what
a caller gives for a unit, which may name none.
-/

namespace FlightUnits

/-- A unit of measure. -/
inductive MeasureUnit where
  | kilogram
  | gram
  | pound
  | slug
  | ounce
  | metre
  | centimetre
  | millimetre
  | foot
  | inch
  | second
  | minute
  | hour
  | squareMetre
  | squareFoot
  | squareInch
  | cubicMetre
  | litre
  | cubicFoot
  | cubicInch
  | gallon
  | metrePerSecond
  | milePerHour
  | knot
  | kilometrePerHour
  | metrePerSecondSquared
  | footPerSecondSquared
  | newton
  | poundForce
  | pascal
  | kilopascal
  | poundPerSquareInch
  | poundPerSquareFoot
  | inchOfMercury
  | watt
  | kilowatt
  | horsepower
  | joule
  | kilojoule
  | kilowattHour
  | kilogramPerCubicMetre
  | slugPerCubicFoot
  | newtonMetre
  | poundFoot
  | celsius
  | fahrenheit
deriving DecidableEq

namespace MeasureUnit

/-- The identifier of a unit. -/
def id : MeasureUnit → String
  | kilogram => "kg"
  | gram => "g"
  | pound => "lbs"
  | slug => "slug"
  | ounce => "oz"
  | metre => "m"
  | centimetre => "cm"
  | millimetre => "mm"
  | foot => "ft"
  | inch => "in"
  | second => "s"
  | minute => "min"
  | hour => "hrs"
  | squareMetre => "m2"
  | squareFoot => "ft2"
  | squareInch => "in2"
  | cubicMetre => "m3"
  | litre => "l"
  | cubicFoot => "ft3"
  | cubicInch => "in3"
  | gallon => "gal"
  | metrePerSecond => "ms"
  | milePerHour => "mph"
  | knot => "knots"
  | kilometrePerHour => "kph"
  | metrePerSecondSquared => "ms2"
  | footPerSecondSquared => "fts2"
  | newton => "n"
  | poundForce => "lbf"
  | pascal => "pa"
  | kilopascal => "kpa"
  | poundPerSquareInch => "psi"
  | poundPerSquareFoot => "psf"
  | inchOfMercury => "inhg"
  | watt => "w"
  | kilowatt => "kw"
  | horsepower => "hp"
  | joule => "j"
  | kilojoule => "kj"
  | kilowattHour => "kwh"
  | kilogramPerCubicMetre => "kgm3"
  | slugPerCubicFoot => "slugft3"
  | newtonMetre => "nm"
  | poundFoot => "lbft"
  | celsius => "c"
  | fahrenheit => "f"

/-- All units, in the order of their listing. -/
def all : List MeasureUnit :=
  [kilogram, gram, pound, slug, ounce, metre, centimetre, millimetre, foot, inch, second,
    minute, hour, squareMetre, squareFoot, squareInch, cubicMetre, litre, cubicFoot, cubicInch,
    gallon, metrePerSecond, milePerHour, knot, kilometrePerHour, metrePerSecondSquared,
    footPerSecondSquared, newton, poundForce, pascal, kilopascal, poundPerSquareInch,
    poundPerSquareFoot, inchOfMercury, watt, kilowatt, horsepower, joule, kilojoule, kilowattHour,
    kilogramPerCubicMetre, slugPerCubicFoot, newtonMetre, poundFoot, celsius, fahrenheit]

/-- The unit with an identifier. -/
def ofId? (s : String) : Option MeasureUnit := all.find? (·.id == s)

theorem mem_all (u : MeasureUnit) : u ∈ all := by
  cases u <;> decide

theorem nodup_all : all.Nodup := by
  decide

theorem ofId?_id (u : MeasureUnit) : ofId? u.id = some u := by
  cases u <;> rfl

theorem id_injective {u v : MeasureUnit} (h : u.id = v.id) : u = v := by
  have := ofId?_id u
  rw [h, ofId?_id] at this
  exact (Option.some.inj this).symm

end MeasureUnit

/-- What a caller gives for a unit: a unit, or something else with the text it is shown by. -/
inductive UnitTag where
  | known (unit : MeasureUnit)
  | foreign (text : String)
deriving DecidableEq

namespace UnitTag

/-- A text as a unit tag: the unit it identifies, if it does. -/
def ofText (s : String) : UnitTag :=
  match MeasureUnit.ofId? s with
  | some u => known u
  | none => foreign s

theorem ofText_id (u : MeasureUnit) : ofText u.id = known u := by
  rw [ofText, MeasureUnit.ofId?_id]

end UnitTag

end FlightUnits
