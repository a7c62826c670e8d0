import FlightUnits.Exchange
import FlightUnits.Proofs.ExactUnits

/-!
# The dimension guard of the exchange

The exchange knows nothing of the dimensions of the standard table: it compares the exponents that
follow from the definitions of its units, which are built here from the kilogram, the metre, the
second and the kelvin. Conversions within the exchange keep the exponents, so that a quantity is
refused on its way back exactly when its exponents are not those of the unit asked for. That is the
guard of a conversion in the standard table, but for energies and moments, which have the same
exponents.
-/

namespace FlightUnits

namespace Exchange

/-! ### Definitions of units -/

/-- A unit by its definition: its size in SI units, and its exponents. -/
structure Definition where
  size : Rat
  exponents : Exponents
deriving DecidableEq

namespace Definition

instance : Mul Definition := ⟨fun a b => ⟨a.size * b.size, a.exponents.mul b.exponents⟩⟩

instance : Div Definition := ⟨fun a b => ⟨a.size / b.size, a.exponents.div b.exponents⟩⟩

/-- So many of a unit, or a part of it. -/
def many (k : Rat) (a : Definition) : Definition := ⟨k * a.size, a.exponents⟩

def kilogram : Definition := ⟨1, ⟨1, 0, 0, 0⟩⟩

def metre : Definition := ⟨1, ⟨0, 1, 0, 0⟩⟩

def second : Definition := ⟨1, ⟨0, 0, 1, 0⟩⟩

def kelvin : Definition := ⟨1, ⟨0, 0, 0, 1⟩⟩

def pound : Definition := many (45359237 / 100000000) kilogram

def inch : Definition := many (254 / 10000) metre

def foot : Definition := many 12 inch

def hour : Definition := many 3600 second

def litre : Definition := many (1 / 1000) (metre * metre * metre)

def newton : Definition := kilogram * metre / (second * second)

/-- The acceleration of free fall. -/
def gravity : Definition := many (980665 / 100000) (metre / (second * second))

def poundForce : Definition := pound * gravity

def slug : Definition := poundForce * (second * second) / foot

/-- The density of mercury. -/
def mercury : Definition := many (135951 / 10000) (kilogram / litre)

def pascal : Definition := newton / (metre * metre)

def joule : Definition := newton * metre

def watt : Definition := joule / second

/-- The definition of a unit; that of a temperature is that of its degree. -/
def of : MeasureUnit → Definition
  | .kilogram => kilogram
  | .gram => many (1 / 1000) kilogram
  | .pound => pound
  | .slug => slug
  | .ounce => many (1 / 16) pound
  | .metre => metre
  | .centimetre => many (1 / 100) metre
  | .millimetre => many (1 / 1000) metre
  | .foot => foot
  | .inch => inch
  | .second => second
  | .minute => many 60 second
  | .hour => hour
  | .squareMetre => metre * metre
  | .squareFoot => foot * foot
  | .squareInch => inch * inch
  | .cubicMetre => metre * metre * metre
  | .litre => litre
  | .cubicFoot => foot * foot * foot
  | .cubicInch => inch * inch * inch
  | .gallon => many 231 (inch * inch * inch)
  | .metrePerSecond => metre / second
  | .milePerHour => many 5280 foot / hour
  | .knot => many 1852 metre / hour
  | .kilometrePerHour => many 1000 metre / hour
  | .metrePerSecondSquared => metre / (second * second)
  | .footPerSecondSquared => foot / (second * second)
  | .newton => newton
  | .poundForce => poundForce
  | .pascal => pascal
  | .kilopascal => many 1000 pascal
  | .poundPerSquareInch => poundForce / (inch * inch)
  | .poundPerSquareFoot => poundForce / (foot * foot)
  | .inchOfMercury => inch * mercury * gravity
  | .watt => watt
  | .kilowatt => many 1000 watt
  | .horsepower => many 550 foot * poundForce / second
  | .joule => joule
  | .kilojoule => many 1000 joule
  | .kilowattHour => many 1000 watt * hour
  | .kilogramPerCubicMetre => kilogram / (metre * metre * metre)
  | .slugPerCubicFoot => slug / (foot * foot * foot)
  | .newtonMetre => newton * metre
  | .poundFoot => poundForce * foot
  | .celsius => kelvin
  | .fahrenheit => many (5 / 9) kelvin

end Definition

/-- The sizes of the exchange are those of the definitions. -/
theorem size_of (u : MeasureUnit) : (Definition.of u).size = size u := by
  cases u <;> decide +kernel

/-- A definition has the exponents of the dimension that the standard table gives the unit. -/
theorem exponents_of (u : MeasureUnit) :
    (Definition.of u).exponents = (Standard.dimension u).exponents := by
  cases u <;> decide

lemma dimension_eq (u : MeasureUnit) : dimension u = Standard.dimension u := by
  cases u <;> rfl

/-- Two units are compatible when the exponents of their definitions agree. -/
theorem compatible_iff_exponents {u v : MeasureUnit} :
    compatible u v ↔ (Definition.of u).exponents = (Definition.of v).exponents := by
  rw [compatible, beq_iff_eq, exponents_of, exponents_of, dimension_eq, dimension_eq]

/-! ### Conversions within the exchange -/

variable {α : Type} [Scalar α] {q r s : Quantity α} {u : MeasureUnit}

/-- What a quantity may become by conversions within the exchange. -/
inductive Reaches (q : Quantity α) : Quantity α → Prop where
  | start : Reaches q q
  | step {r s : Quantity α} {u : MeasureUnit} (h : Reaches q r) (hto : to? r u = some (.ok s)) :
      Reaches q s

/-- A conversion within the exchange keeps the exponents. -/
lemma exponents_of_to? (h : to? r u = some (.ok s)) :
    (Definition.of r.unit).exponents = (Definition.of s.unit).exponents := by
  unfold to? at h
  split at h
  next hcompatible =>
    obtain ⟨x, -, rfl⟩ := map_eq_ok_iff.mp (Option.some.inj h)
    exact compatible_iff_exponents.mp hcompatible
  next => cases h

/-- However often a quantity is converted within the exchange, it keeps its exponents. -/
theorem Reaches.exponents_eq (h : Reaches q r) :
    (Definition.of q.unit).exponents = (Definition.of r.unit).exponents := by
  induction h with
  | start => rfl
  | step _ hto ih => exact ih.trans (exponents_of_to? hto)

/-- A quantity that was reached is compatible with the units of its old dimension or its twin. -/
lemma Reaches.compatible_iff (h : Reaches q r) :
    compatible r.unit u ↔ Standard.dimension q.unit = Standard.dimension u ∨
      Dimension.AreEnergyAndMoment (Standard.dimension q.unit) (Standard.dimension u) := by
  rw [compatible_iff_exponents, ← h.exponents_eq, exponents_of, exponents_of,
    Dimension.exponents_eq_iff]

/-! ### The way back -/

/-- The fault of a quantity whose exponents are not those of the unit asked for. -/
def mismatch (v u : MeasureUnit) : Fault α :=
  .dimensionMismatch (name v) (dimensionality v) (Standard.description u) (Standard.dimension u).id

lemma takeBack_of_not_compatible (h : ¬ compatible r.unit u) :
    takeBack Standard.units r (.known u) = .error (mismatch r.unit u) := by
  simp [takeBack, UnitTag.resolve, to?, h, mismatch]

/-- Between compatible units only the arithmetic may fail. -/
lemma takeBack_of_compatible {f : Fault α} (h : compatible r.unit u)
    (hf : takeBack Standard.units r (.known u) = .error f) : ∃ g, f = .arithmetic g := by
  simp only [takeBack, UnitTag.resolve, Standard.lookup_units, ok_bind, to?, h, if_true] at hf
  rcases bind_eq_error_iff.mp hf with hf | ⟨converted, -, hf⟩
  · obtain ⟨g, -, rfl⟩ := liftM_eq_error_iff.mp hf
    exact ⟨g, rfl⟩
  rcases bind_eq_error_iff.mp hf with hf | ⟨real, -, hf⟩
  · obtain ⟨g, -, rfl⟩ := liftM_eq_error_iff.mp hf
    exact ⟨g, rfl⟩
  · cases hf

end Exchange

end FlightUnits
