import FlightUnits.CommandLine.Operand
import FlightUnits.Script.Value

/-!
# Failures on values

What goes wrong when a value of a script is not what a function expects, besides the faults of the
functions themselves. `Failure.message` puts all of them into words. A failure that shows a whole
number with too many digits cannot be put into words; `Failure.settled` replaces it.
-/

namespace FlightUnits

/-- A failure of a function on values. -/
inductive Failure where
  /-- A fault of the library. -/
  | fault (fault : Fault Number)
  /-- Data that makes no record. -/
  | rejection (rejection : Rejection)
  /-- A quantity built of something that is no number. -/
  | notANumber (value : Value)
  /-- An operand of a named operation that is neither a number nor a quantity. -/
  | unsupportedOperand (symbol : Symbol) (value : Value)
  /-- Operands for which an operator has no meaning. -/
  | noOperator (symbol : Symbol) (left right : Value)
  /-- A sequence repeated by something that is no whole number. -/
  | notRepeatable (times : Value)
  /-- A sequence repeated more often than there are places. -/
  | countTooLarge
  /-- A text repeated to more characters than there are places. -/
  | textTooLong
  /-- A sequence that is too long to be kept. -/
  | outOfMemory
  /-- A sequence joined with something that is no sequence of its kind. -/
  | notJoinable (sequence : String) (other : Value)
  /-- An operand without a sign. -/
  | noSign (symbol : Symbol) (value : Value)
  /-- Values of which neither comes before the other. -/
  | notOrdered (left right : Value)
  /-- A value that is no member of a closed set. -/
  | notAMember (value : Value) (set : String)
  /-- A value without an attribute. -/
  | noAttribute (value : Value) (name : String)
  /-- A value that no table is looked up with. -/
  | unhashable (value : Value)
  /-- A value under which a table has nothing. -/
  | noKey (value : Value)
  /-- A value that has no length. -/
  | noLength (value : Value)
  /-- A value that has no components. -/
  | noComponents (value : Value)
  /-- A value without a first component. -/
  | noFirst (value : Value)
  /-- A sample with fewer or more than two components. -/
  | componentCount (found : Nat)
  /-- An input outside the range of an interpolation table. -/
  | outsideRange (x first last : Value)
  /-- Values of which one is no dimension in a product or quotient. -/
  | unrelated (symbol : Symbol) (left right : Value)
  /-- A base unit asked of what has not exactly one. -/
  | unresolvedBase (name : String) (count : Nat)
  /-- A number of seats for which there is no estimate. -/
  | seats (value : Value)
  /-- A text that is no numeral. -/
  | notANumeral (value : Value)
  /-- A text that is no numeral of a whole number. -/
  | notAWholeNumeral (text : String)
  /-- A numeral of a whole number with too many digits. -/
  | tooManyDigits (count : Nat)
  /-- A whole number that has too many digits to be written down. -/
  | unwritable
  /-- A value that cannot become a number at all. -/
  | notConvertible (value : Value)
  /-- A value that has no square root. -/
  | notReal (value : Value)
  /-- A text that is no operand of the command line. -/
  | notAnOperand (value : Value)
  /-- An exchange between units of different dimensionality. -/
  | notExchangeable (source sourceDimensionality target targetDimensionality : String)

namespace Failure

/-- The limit on the digits of whole numbers, as messages tell it. -/
def digitLimitText : String :=
  "Exceeds the limit (" ++ toString WholeNumeral.digitLimit ++
    " digits) for integer string conversion"

/-- How the limit is changed, as messages tell it. -/
def digitLimitAdvice : String := "; use sys.set_int_max_str_digits() to increase the limit"

/-- The text of a failure. -/
def message : Failure → String
  | fault f => f.message
  | rejection r => r.message
  | notANumber v => "Quantity value must be a number, got " ++ v.shown
  | unsupportedOperand symbol v =>
    "Unsupported operand for '" ++ symbol.text ++ "': " ++ v.shown ++
      " (expected a number or a Quantity)"
  | noOperator symbol a b =>
    "unsupported operand type(s) for " ++ symbol.text ++ ": '" ++ a.typeName ++ "' and '" ++
      b.typeName ++ "'"
  | notRepeatable v => "can't multiply sequence by non-int of type '" ++ v.typeName ++ "'"
  | countTooLarge => "cannot fit 'int' into an index-sized integer"
  | textTooLong => "repeated string is too long"
  | outOfMemory => ""
  | notJoinable sequence v =>
    "can only concatenate " ++ sequence ++ " (not \"" ++ v.typeName ++ "\") to " ++ sequence
  | noSign symbol v => "bad operand type for unary " ++ symbol.text ++ ": '" ++ v.typeName ++ "'"
  | notOrdered a b =>
    "'<=' not supported between instances of '" ++ a.typeName ++ "' and '" ++ b.typeName ++ "'"
  | notAMember v set => v.shown ++ " is not a valid " ++ set
  | noAttribute v name => "'" ++ v.typeName ++ "' object has no attribute '" ++ name ++ "'"
  | unhashable v => "unhashable type: '" ++ v.typeName ++ "'"
  | noKey v => v.shown
  | noLength v => "object of type '" ++ v.typeName ++ "' has no len()"
  | noComponents v => "cannot unpack non-iterable " ++ v.typeName ++ " object"
  | noFirst v => "'" ++ v.typeName ++ "' object is not subscriptable"
  | componentCount found =>
    if found < 2 then "not enough values to unpack (expected 2, got " ++ toString found ++ ")"
    else "too many values to unpack (expected 2)"
  | outsideRange x first last => Fault.outsideRangeText x.plain first.plain last.plain
  | unrelated symbol a b => Fault.unresolvedDimensionText symbol a.tagText b.tagText 0
  | unresolvedBase name count => TableFault.unresolvedBaseText name count
  | seats v => "Gross weight estimate is only defined for 1 or 2 seats, got " ++ v.plain
  | notANumeral v => "could not convert string to float: " ++ v.shown
  | notAWholeNumeral s => "invalid literal for int() with base 10: " ++ Text.quoted s
  | tooManyDigits count =>
    digitLimitText ++ ": value has " ++ toString count ++ " digits" ++ digitLimitAdvice
  | unwritable => digitLimitText ++ digitLimitAdvice
  | notConvertible v =>
    "float() argument must be a string or a real number, not '" ++ v.typeName ++ "'"
  | notReal v => "must be real number, not " ++ v.typeName
  | notAnOperand v => CommandLine.WrittenOperand.complaint v.plain
  | notExchangeable source sourceDimensionality target targetDimensionality =>
    "Cannot convert from '" ++ source ++ "' (" ++ sourceDimensionality ++ ") to '" ++ target ++
      "' (" ++ targetDimensionality ++ ")"

/-- The values that the text of a failure shows. -/
def shownValues : Failure → List Value
  | fault (.mixedOperands _ a b) => [.ofOperand a, .ofOperand b]
  | fault (.outsideRange x first last) => [.number x, .number first, .number last]
  | notANumber v | unsupportedOperand _ v | notAMember v _ => [v]
  | noKey v | seats v | notANumeral v => [v]
  | outsideRange x first last => [x, first, last]
  | unrelated _ a b => [a, b]
  | _ => []

/-- The failure itself, or that its text cannot be written. -/
def settled (f : Failure) : Failure :=
  if f.shownValues.all Value.isWritable then f else unwritable

end Failure

instance : MonadLift (Except (Fault Number)) (Except Failure) :=
  ⟨Except.mapError Failure.fault⟩

end FlightUnits
