import FlightUnits.Fault
import FlightUnits.Request.Basic
import FlightUnits.WholeNumeral

/-!
# Values of a script

What a script can hand to the library: numbers and quantities, and everything else that is not an
operand. A value has two texts, the plain one of printing and the shown one of messages, where
texts are quoted and units are members of their set. The views say what a value counts as: a truth
value counts as the number one or zero, and a unit or dimension as its identifier.
-/

namespace FlightUnits

/-- A value of a script. -/
inductive Value where
  | null
  | truth (b : Bool)
  | number (x : Number)
  | text (s : String)
  | quantity (q : Quantity Number)
  | unit (u : MeasureUnit)
  | dimension (d : Dimension)
  | list (items : List Value)
  | tuple (items : List Value)
  /-- The record of a quantity in a request or a result. -/
  | entry (q : Quantity Binary64)

namespace Value

instance : Inhabited Value := ⟨null⟩

/-- The fields of the record of a quantity, with `separator` between them. -/
def entryFields (q : Quantity Binary64) (separator : String) : String :=
  "value=" ++ (Number.real q.value).text ++ separator ++ "unit=" ++ shownMember "Unit" q.unit.id

mutual

/-- A value as it is shown inside messages. -/
def shown : Value → String
  | null => "None"
  | truth b => if b then "True" else "False"
  | number x => x.text
  | text s => Text.quoted s
  | quantity q => q.shown
  | unit u => shownMember "Unit" u.id
  | dimension d => shownMember "Dimension" d.id
  | list items => "[" ++ ", ".intercalate (shownAll items) ++ "]"
  | tuple items =>
    match shownAll items with
    | [item] => "(" ++ item ++ ",)"
    | shown => "(" ++ ", ".intercalate shown ++ ")"
  | entry q => Request.quantityRecord ++ "(" ++ entryFields q ", " ++ ")"

/-- The items of a list or tuple as they are shown inside messages. -/
def shownAll : List Value → List String
  | [] => []
  | item :: items => shown item :: shownAll items

end

/-- A value as it is printed. -/
def plain : Value → String
  | text s => s
  | quantity q => q.text
  | unit u => "Unit." ++ u.id.toUpper
  | dimension d => "Dimension." ++ d.id.toUpper
  | entry q => entryFields q " "
  | v => v.shown

/-- The text of the value that a value holds itself, if it holds one. -/
def heldText? : Value → Option String
  | quantity q => some q.value.text
  | entry q => some (Number.real q.value).text
  | unit u => some u.id
  | dimension d => some d.id
  | _ => none

/-- The text by which a value is named as a unit or dimension. -/
def tagText (v : Value) : String := v.heldText?.getD v.plain

/-- The name of the type of a value, as messages give it. -/
def typeName : Value → String
  | null => "NoneType"
  | truth _ => "bool"
  | number (.int _) => "int"
  | number (.real _) => "float"
  | text _ => "str"
  | quantity _ => "Quantity"
  | unit _ => "Unit"
  | dimension _ => "Dimension"
  | list _ => "list"
  | tuple _ => "tuple"
  | entry _ => Request.quantityRecord

/-- A value as an operand of arithmetic, when it is a number or a quantity. -/
def operand? : Value → Option (Operand Number)
  | number x => some (.number x)
  | quantity q => some (.quantity q)
  | _ => none

/-- Whether a value is a plain number; truth values are not. -/
def isNumber : Value → Bool
  | number _ => true
  | _ => false

/-- An operand as a value. -/
def ofOperand : Operand Number → Value
  | .number x => number x
  | .quantity q => quantity q

/-- A value as a unit tag. -/
def unitTag : Value → UnitTag
  | text s => .ofText s
  | unit u => .known u
  | v => .foreign v.tagText

/-- The number that a value counts as. -/
def asNumber? : Value → Option Number
  | number x => some x
  | truth b => some (.int (if b then 1 else 0))
  | _ => none

/-- The whole number that a value counts as. -/
def asWhole? (v : Value) : Option Int :=
  match v.asNumber? with
  | some (.int n) => some n
  | _ => none

/-- The text that a value counts as. -/
def asText? : Value → Option String
  | text s => some s
  | unit u => some u.id
  | dimension d => some d.id
  | _ => none

/-- The unit that a value counts as. -/
def asUnit? (v : Value) : Option MeasureUnit := v.asText?.bind MeasureUnit.ofId?

/-- The dimension that a value counts as. -/
def asDimension? (v : Value) : Option Dimension := v.asText?.bind Dimension.ofId?

/-- Whether a value counts as something: neither nothing, nor false, nor zero, nor empty. -/
def isSomething : Value → Bool
  | null => false
  | truth b => b
  | number x => !x.eq (.int 0)
  | text s => !s.isEmpty
  | list items | tuple items => !items.isEmpty
  | _ => true

/-- Whether a number can be written down. -/
def isWritableNumber : Number → Bool
  | .int n => WholeNumeral.isWritable n
  | .real _ => true

mutual

/-- Whether every whole number in a value can be written down. -/
def isWritable : Value → Bool
  | number x => isWritableNumber x
  | quantity q => isWritableNumber q.value
  | list items | tuple items => areWritable items
  | _ => true

/-- Whether every whole number in a list of values can be written down. -/
def areWritable : List Value → Bool
  | [] => true
  | item :: items => isWritable item && areWritable items

end

end Value

end FlightUnits
