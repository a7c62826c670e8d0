import FlightUnits.Registry
import FlightUnits.Script.Failure

/-!
# Arguments of functions

What functions take from values that need not be what is expected: units and their roles,
quantities, numerals and members of closed sets. A quantity is taken by its attributes, so its
record serves as well.
-/

namespace FlightUnits.Script

/-- The quantity of a value in a unit, if the value is a number. -/
def quantityIn (unit : MeasureUnit) : Value → Except Failure (Quantity Number)
  | .number x => .ok ⟨x, unit⟩
  | v => .error (.notANumber v)

/-- The role that a value gives a unit; the text is empty without a special role. -/
def role (v : Value) : Except Failure String :=
  if !v.isSomething then .ok ""
  else if v.isWritable then .ok v.plain
  else .error .unwritable

/-- The failure of a fault about what a value names, which cannot be told if it is too long. -/
def blame (v : Value) (f : Fault Number) : Failure :=
  match f with
  | .unknownUnit .. => if v.isWritable then .fault f else .unwritable
  | f => .fault f

/-- The unit that a value names. -/
def unit (v r : Value) : Except Failure MeasureUnit :=
  match v.unitTag with
  | .known u => .ok u
  | tag => do
    let role ← role r
    (tag.resolve role).mapError (blame v)

/-- A quantity constructed of a value and a unit; the unit is looked at first. -/
def construct (value tag : Value) : Except Failure (Quantity Number) := do
  let u ← unit tag .null
  quantityIn u value

/-- A quantity written down as a value and a unit; the value is looked at first. -/
def written (value tag : Value) : Except Failure (Quantity Number) :=
  if value.isNumber then construct value tag else .error (.notANumber value)

/-- The quantity that a value is, or that its record holds; the unit is looked at first. -/
def measured : Value → Except Failure (Quantity Number)
  | .quantity q => .ok q
  | .entry q => .ok (q.map Number.real)
  | v => .error (.noAttribute v "unit")

/-- The quantity that a value is, when a property of quantities is asked for. -/
def owner (property : String) : Value → Except Failure (Quantity Number)
  | .quantity q => .ok q
  | v => .error (.noAttribute v property)

/-- Looks at the value that a value holds itself. -/
def hasValue (v : Value) : Except Failure String :=
  match v.heldText? with
  | some text => .ok text
  | none => .error (.noAttribute v "value")

/-- A text that shows a value, unless the value cannot be written. -/
def printed (s : String) (v : Value) : Except Failure String :=
  if v.isWritable then .ok s else .error .unwritable

/-- The text that a value is. -/
def text (method : String) (v : Value) : Except Failure String :=
  match v.asText? with
  | some s => .ok s
  | none => .error (.noAttribute v method)

/-- The real number that a value stands for. -/
def real (v : Value) : Except Failure Binary64 :=
  match v.asNumber?, v.asText? with
  | some x, _ => x.toBinary64.mapError fun f => .fault (.arithmetic f)
  | none, some s =>
    match Binary64.ofText? s with
    | some x => .ok x
    | none => .error (.notANumeral v)
  | none, none => .error (.notConvertible v)

/-- The whole number that a text denotes. -/
def whole (s : String) : Except Failure Int :=
  match WholeNumeral.read s with
  | .ok n => .ok n
  | .error .malformed => .error (.notAWholeNumeral s)
  | .error (.tooManyDigits count) => .error (.tooManyDigits count)

/-- The operand of the command line that a value stands for. -/
def writtenOperand (v : Value) : Except Failure CommandLine.WrittenOperand := do
  let s ← text "partition" v
  match CommandLine.WrittenOperand.ofText? s with
  | some operand => return operand
  | none => throw (.notAnOperand v)

/-- The member of a closed set that a value identifies. -/
def member {β : Type} (ofId? : String → Option β) (set : String) (v : Value) : Except Failure β :=
  match v.asText?.bind ofId? with
  | some x => .ok x
  | none => .error (.notAMember v set)

end FlightUnits.Script
