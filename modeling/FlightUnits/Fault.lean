import FlightUnits.Operation
import FlightUnits.Quantity
import FlightUnits.Text.Quoted

/-!
# Faults

Everything that can go wrong in unit arithmetic and in the formulae, as causes. A fault is over the
type of values, because some causes carry operands. `Fault.kind` sorts the causes into the kinds
that callers tell apart, and `Fault.message` is the only place where faults are put into words.
-/

namespace FlightUnits

/-- What can be wrong with the tables of units and relations. -/
inductive TableFault where
  /-- Units that have no entry. -/
  | missingEntries (units : List MeasureUnit)
  /-- A dimension that has not exactly one base unit. -/
  | baseCount (dimension : Dimension) (count : Nat)
  /-- A base unit asked of a dimension that has not exactly one. -/
  | unresolvedBase (dimension : Dimension) (count : Nat)
  /-- A pair of factors that occurs in several relations. -/
  | repeatedFactors (left right : Dimension) (count : Nat)
deriving DecidableEq

/-- A fault of unit arithmetic or of a formula. -/
inductive Fault (α : Type) where
  /-- Something that is no registered unit; `role` is empty when the unit has no special role. -/
  | unknownUnit (shown role : String)
  /-- A conversion between units of different dimensions. -/
  | dimensionMismatch (source sourceDimension target targetDimension : String)
  /-- A product or quotient of dimensions to which not exactly one relation applies. -/
  | unresolvedDimension (symbol : Symbol) (left right : Dimension) (found : Nat)
  /-- A sum or difference of a plain number and a quantity. -/
  | mixedOperands (symbol : Symbol) (left right : Operand α)
  /-- Tables that break one of their invariants. -/
  | table (fault : TableFault)
  /-- A failed operation on values. -/
  | arithmetic (fault : ArithmeticFault)
  /-- An interpolation table with fewer than two samples. -/
  | tooFewSamples
  /-- An input outside the range of an interpolation table. -/
  | outsideRange (x first last : α)
  /-- A calculation whose result is infinite or not a number. -/
  | nonFinite (operation : Operation) (value : α)
deriving DecidableEq

/-- The kinds of faults that callers tell apart. -/
inductive FaultKind where
  | unknownUnit
  | dimensionMismatch
  | unresolvedDimension
  | mixedOperands
  | table
  | zeroDivision
  | overflow
  | value
deriving DecidableEq

namespace FaultKind

/-- The faults of units and dimensions. -/
def isUnitFault : FaultKind → Bool
  | unknownUnit | dimensionMismatch | unresolvedDimension | mixedOperands | table => true
  | zeroDivision | overflow | value => false

/-- The faults of given values, those of units and dimensions among them. -/
def isValueFault (k : FaultKind) : Bool := k.isUnitFault || k == value

/-- The faults of a calculation: those of given values, and divisions by zero. -/
def isCalculationFault (k : FaultKind) : Bool := k.isValueFault || k == zeroDivision

end FaultKind

instance {α : Type} : MonadLift (Except ArithmeticFault) (Except (Fault α)) :=
  ⟨Except.mapError Fault.arithmetic⟩

namespace ArithmeticFault

/-- The kind of an arithmetic fault. -/
def kind : ArithmeticFault → FaultKind
  | divisionByZero _ => .zeroDivision
  | integerTooLarge | quotientTooLarge | powerTooLarge => .overflow
  | negativeRoot => .value

end ArithmeticFault

namespace Fault

variable {α : Type}

/-- The kind of a fault. -/
def kind : Fault α → FaultKind
  | unknownUnit .. => .unknownUnit
  | dimensionMismatch .. => .dimensionMismatch
  | unresolvedDimension .. => .unresolvedDimension
  | mixedOperands .. => .mixedOperands
  | table _ => .table
  | arithmetic fault => fault.kind
  | tooFewSamples | outsideRange .. | nonFinite .. => .value

end Fault

namespace TableFault

/-- The text of a base unit asked of what has not exactly one. -/
def unresolvedBaseText (name : String) (count : Nat) : String :=
  "Could not resolve base unit for '" ++ name ++ "' (" ++ toString count ++ " candidates)"

/-- The text of a table fault. -/
def message : TableFault → String
  | missingEntries units =>
    "Units without a registry entry: " ++ ", ".intercalate (units.map MeasureUnit.id)
  | baseCount dimension count =>
    "Dimension '" ++ dimension.id ++ "' has " ++ toString count ++ " base units, expected 1"
  | unresolvedBase dimension count => unresolvedBaseText dimension.id count
  | repeatedFactors left right count =>
    let names :=
      if left = right then left.id
      else if left.id < right.id then left.id ++ " x " ++ right.id
      else right.id ++ " x " ++ left.id
    "Factor pair " ++ names ++ " appears in " ++ toString count ++ " relations"

end TableFault

/-- A member of a closed set as it is shown inside messages: its name, then its identifier. -/
def shownMember (set id : String) : String :=
  "<" ++ set ++ "." ++ id.toUpper ++ ": " ++ Text.quoted id ++ ">"

/-- A quantity as it is shown inside messages. -/
def Quantity.shown (q : Quantity Number) : String :=
  "Quantity(value=" ++ q.value.text ++ ", unit=" ++ shownMember "Unit" q.unit.id ++ ")"

/-- An operand as it is shown inside messages. -/
def Operand.shown : Operand Number → String
  | .number x => x.text
  | .quantity q => q.shown

namespace Fault

/-- The text of a product or quotient of dimensions that is not resolved. -/
def unresolvedDimensionText (symbol : Symbol) (left right : String) (found : Nat) : String :=
  let (verb, joiner) :=
    if symbol = .times then ("multiplying", "and") else ("dividing", "by")
  let reason := if found = 0 then "no relation" else toString found ++ " relations"
  "Could not resolve result dimension when " ++ verb ++ " " ++ left ++ " " ++ joiner ++ " " ++
    right ++ " (" ++ reason ++ " matched)."

/-- The text of an input outside the range of an interpolation table. -/
def outsideRangeText (x first last : String) : String :=
  x ++ " is outside the interpolation range [" ++ first ++ ", " ++ last ++ "]"

/-- The text of a fault. -/
def message : Fault Number → String
  | unknownUnit shown role =>
    if role = "" then "Unknown unit '" ++ shown ++ "'."
    else "Unknown " ++ role ++ " unit '" ++ shown ++ "'."
  | dimensionMismatch source sourceDimension target targetDimension =>
    source ++ " (" ++ sourceDimension ++ ") cannot be converted to " ++ target ++ " (" ++
      targetDimension ++ ")"
  | unresolvedDimension symbol left right found =>
    unresolvedDimensionText symbol left.id right.id found
  | mixedOperands symbol left right =>
    "Cannot apply '" ++ symbol.text ++ "' to a plain number and a quantity (" ++ left.shown ++
      ", " ++ right.shown ++ "); tag both operands with a unit or neither."
  | table fault => fault.message
  | arithmetic fault => fault.message
  | tooFewSamples => "Interpolation table needs at least two samples"
  | outsideRange x first last => outsideRangeText x.text first.text last.text
  | nonFinite operation value =>
    operation.id ++ " produced a non-finite result (" ++ value.text ++ ")"

end Fault

end FlightUnits
