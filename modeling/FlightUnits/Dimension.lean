/-!
# Dimensions

The physical dimensions of the library, each with the identifier it is written by. Every dimension
occurs once in `Dimension.all`, and identifiers are read back by `ofId?`.
-/

namespace FlightUnits

/-- A kind of physical quantity, independent of any unit. -/
inductive Dimension where
  | mass
  | length
  | time
  | area
  | volume
  | velocity
  | acceleration
  | force
  | pressure
  | power
  | energy
  | density
  | moment
  | temperature
deriving DecidableEq

namespace Dimension

/-- The identifier of a dimension. -/
def id : Dimension → String
  | mass => "mass"
  | length => "length"
  | time => "time"
  | area => "area"
  | volume => "volume"
  | velocity => "velocity"
  | acceleration => "acceleration"
  | force => "force"
  | pressure => "pressure"
  | power => "power"
  | energy => "energy"
  | density => "density"
  | moment => "moment"
  | temperature => "temperature"

/-- All dimensions, in the order of their listing. -/
def all : List Dimension :=
  [mass, length, time, area, volume, velocity, acceleration, force, pressure, power, energy,
    density, moment, temperature]

/-- The dimension with an identifier. -/
def ofId? (s : String) : Option Dimension := all.find? (·.id == s)

theorem mem_all (d : Dimension) : d ∈ all := by
  cases d <;> decide

theorem ofId?_id (d : Dimension) : ofId? d.id = some d := by
  cases d <;> rfl

theorem id_injective {d e : Dimension} (h : d.id = e.id) : d = e := by
  have := ofId?_id d
  rw [h, ofId?_id] at this
  exact (Option.some.inj this).symm

end Dimension

end FlightUnits
