import FlightUnits.Binary64.Numeral
import FlightUnits.Json.Basic

/-!
# Operands on the command line

An operand is written as a numeral, or as a numeral, a colon and a unit. The text after the first
colon is the unit, whatever it holds; when it is empty the operand is a plain number.
-/

namespace FlightUnits.CommandLine

/-- An operand as it is written on the command line. -/
inductive WrittenOperand where
  | number (x : Binary64)
  | tagged (x : Binary64) (unit : String)

namespace WrittenOperand

/-- The text before the first colon, and the text after it. -/
def cutAtColon (s : List Char) : List Char × List Char :=
  match s.span (· != ':') with
  | (before, rest) => (before, rest.drop 1)

/-- The operand that a text stands for. -/
def ofText? (s : String) : Option WrittenOperand :=
  let (before, after) := cutAtColon s.toList
  (Binary64.ofText? (String.ofList before)).map fun x =>
    if after.isEmpty then number x else tagged x (String.ofList after)

/-- The complaint about a text that stands for no operand. -/
def complaint (s : String) : String :=
  "invalid operand '" ++ s ++ "' (expected VALUE or VALUE:UNIT)"

/-- The operand as a JSON tree. -/
def toJson : WrittenOperand → Json
  | number x => .real x
  | tagged x unit => .object [("value", .real x), ("unit", .text unit)]

end WrittenOperand

end FlightUnits.CommandLine
