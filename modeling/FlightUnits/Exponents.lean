import FlightUnits.Dimension

/-!
# Physical dimensionality

The exponents of the base quantities of the SI in each dimension. Two dimensions are physically
alike when their exponents agree; energy and moment are the only pair that is.
-/

namespace FlightUnits

/-- The exponents of mass, length, time and temperature. -/
structure Exponents where
  mass : Int
  length : Int
  time : Int
  temperature : Int
deriving DecidableEq

namespace Exponents

/-- The exponents of a plain number. -/
def none : Exponents := ⟨0, 0, 0, 0⟩

/-- The exponents of a product. -/
def mul (a b : Exponents) : Exponents :=
  ⟨a.mass + b.mass, a.length + b.length, a.time + b.time, a.temperature + b.temperature⟩

/-- The exponents of a quotient. -/
def div (a b : Exponents) : Exponents :=
  ⟨a.mass - b.mass, a.length - b.length, a.time - b.time, a.temperature - b.temperature⟩

end Exponents

namespace Dimension

/-- The exponents of a dimension. -/
def exponents : Dimension → Exponents
  | mass => ⟨1, 0, 0, 0⟩
  | length => ⟨0, 1, 0, 0⟩
  | time => ⟨0, 0, 1, 0⟩
  | area => ⟨0, 2, 0, 0⟩
  | volume => ⟨0, 3, 0, 0⟩
  | velocity => ⟨0, 1, -1, 0⟩
  | acceleration => ⟨0, 1, -2, 0⟩
  | force => ⟨1, 1, -2, 0⟩
  | pressure => ⟨1, -1, -2, 0⟩
  | power => ⟨1, 2, -3, 0⟩
  | energy => ⟨1, 2, -2, 0⟩
  | density => ⟨1, -3, 0, 0⟩
  | moment => ⟨1, 2, -2, 0⟩
  | temperature => ⟨0, 0, 0, 1⟩

end Dimension

end FlightUnits
