import FlightUnits.Dimension
import FlightUnits.Operation

/-!
# The program

The name and the version that the program answers with, and its commands.
-/

namespace FlightUnits

namespace Program

/-- The name of the program. -/
def name : String := "aerounits"

/-- The version of the program. -/
def version : String := "0.1.0"

/-- The service that the program starts, as its host knows it. -/
def service : String := name ++ ".api.server:app"

end Program

namespace CommandLine

/-- A command of the program. -/
inductive Command where
  | units
  | convert
  | calculate
  | dynamicPressure
  | serve
deriving DecidableEq

namespace Command

/-- The word for a command. -/
def word : Command → String
  | units => "units"
  | convert => "convert"
  | calculate => "calc"
  | dynamicPressure => "q"
  | serve => "serve"

/-- All commands, in the order of their listing. -/
def all : List Command := [units, convert, calculate, dynamicPressure, serve]

/-- The command of a word. -/
def ofWord? (s : String) : Option Command := all.find? (·.word == s)

theorem ofWord?_word (c : Command) : ofWord? c.word = some c := by
  cases c <;> rfl

/-- The name by which a command complains. -/
def program (c : Command) : String := Program.name ++ " " ++ c.word

end Command

end CommandLine

end FlightUnits
