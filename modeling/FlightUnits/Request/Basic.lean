import FlightUnits.Binary64.Numeral
import FlightUnits.Json.Basic
import FlightUnits.Quantity
import FlightUnits.Request.Issue

/-!
# Requests

The records that the calculator takes, each read from a JSON tree. All numbers of a request are
double precision numbers: a whole number counts if a double can hold it, a truth value counts as
one or zero, and a text counts if it is a numeral in ASCII digits. Fields that a record does not
have are ignored. Every issue keeps the data to which it applies, which for a missing field is the
record. A calculation is a negation of one operand or a combination of two by a symbol, so a
request that has been read has as many operands as its operation takes.
-/

namespace FlightUnits

/-- Converts a quantity to another unit. -/
structure ConvertRequest where
  quantity : Quantity Binary64
  target : MeasureUnit

/-- Applies an operation to one or two operands. -/
inductive CalculationRequest where
  | negate (a : Operand Binary64)
  | combine (symbol : Symbol) (a b : Operand Binary64)

namespace CalculationRequest

/-- The operation that is asked for. -/
def operation : CalculationRequest → Operation
  | negate _ => .negate
  | combine symbol _ _ => symbol.operation

end CalculationRequest

/-- Asks for the dynamic pressure at a velocity, at sea level unless an altitude is given. -/
structure DynamicPressureRequest where
  velocity : Quantity Binary64
  altitude : Option (Quantity Binary64)

/-- Asks for the stall speed. -/
structure StallSpeedRequest where
  grossWeight : Quantity Binary64
  wingArea : Quantity Binary64
  clMax : Binary64

namespace Request

/-- A real number. -/
def real : Json → Checked Binary64
  | .int n =>
    if (Binary64.ofInt n).isFinite then .ok (.ofInt n)
    else Checked.refuse .notANumber (.int n)
  | .real x => .ok x
  | .truth b => .ok (.ofInt (if b then 1 else 0))
  | .text s =>
    if Text.hasSurrogate s then Checked.refuse .notText (.text s)
    else
      match Binary64.ofAsciiText? s with
      | some x => .ok x
      | none => Checked.refuse .notANumeral (.text s)
  | data => Checked.refuse .notANumber data

/-- A real number greater than zero. -/
def positive (data : Json) : Checked Binary64 := do
  let x ← real data
  if x.le (.zero false) ∨ x.isNaN then Checked.refuse .notGreater data else return x

/-- A member of a closed set by its identifier. -/
def member {β : Type} (ofId? : String → Option β) : Json → Checked β
  | .text s =>
    match ofId? s with
    | some x => .ok x
    | none => Checked.refuse (if Text.hasSurrogate s then .notText else .notAMember) (.text s)
  | data => Checked.refuse .notAMember data

/-- Data that is a record. -/
def object (data : Json) : Checked Json :=
  match data with
  | .object _ => .ok data
  | _ => Checked.refuse .notARecord data

/-- A required field of a record. -/
def field {β : Type} (record : Json) (name : String) (read : Json → Checked β) : Checked β :=
  Checked.inside name
    (match record.field? name with
    | some data => read data
    | none => Checked.refuse .missing record)

/-- A field of a record that may be missing or null. -/
def optionalField {β : Type} (record : Json) (name : String) (read : Json → Checked β) :
    Checked (Option β) :=
  match record.field? name with
  | none | some .null => .ok none
  | some data => Checked.inside name ((read data).map some)

/-- The name of the record of a quantity. -/
def quantityRecord : String := "QuantityModel"

/-- A quantity. -/
def quantity (data : Json) : Checked (Quantity Binary64) := do
  let record ← object data
  let (value, unit) ← Checked.both (field record "value" real)
    (field record "unit" (member MeasureUnit.ofId?))
  return ⟨value, unit⟩

/-- The issues of data that is neither a real number nor a quantity. -/
def operandIssues (number quantity : List Issue) : List Issue :=
  number.map (Issue.inside "float") ++ quantity.map (Issue.inside quantityRecord)

/-- An operand: a record is read as a quantity, everything else as a real number. -/
def operand (data : Json) : Checked (Operand Binary64) :=
  match real data, quantity data with
  | .ok x, _ => .ok (.number x)
  | .error _, .ok q => .ok (.quantity q)
  | .error number, .error quantity => .error (operandIssues number quantity)

/-- A conversion. -/
def conversion (data : Json) : Checked ConvertRequest := do
  let record ← object data
  let (quantity, target) ← Checked.both (field record "quantity" quantity)
    (field record "to_unit" (member MeasureUnit.ofId?))
  return ⟨quantity, target⟩

/-- The calculation of an operation and its operands, if it takes that many. -/
def arrange? (operation : Operation) (a : Operand Binary64) (b : Option (Operand Binary64)) :
    Option CalculationRequest :=
  match operation.symbol?, b with
  | some symbol, some b => some (.combine symbol a b)
  | none, none => some (.negate a)
  | _, _ => none

/-- A calculation. -/
def calculation (data : Json) : Checked CalculationRequest := do
  let record ← object data
  let (operation, a, b) ← Checked.both (field record "operation" (member Operation.ofId?))
    (Checked.both (field record "a" operand) (optionalField record "b" operand))
  match arrange? operation a b with
  | some request => return request
  | none => Checked.refuse (.operandCount operation) record

/-- A question for a dynamic pressure. -/
def dynamicPressure (data : Json) : Checked DynamicPressureRequest := do
  let record ← object data
  let (velocity, altitude) ← Checked.both (field record "velocity" quantity)
    (optionalField record "altitude" quantity)
  return ⟨velocity, altitude⟩

/-- A question for a stall speed. -/
def stallSpeed (data : Json) : Checked StallSpeedRequest := do
  let record ← object data
  let (grossWeight, wingArea, clMax) ← Checked.both (field record "gross_weight" quantity)
    (Checked.both (field record "wing_area" quantity) (field record "cl_max" positive))
  return ⟨grossWeight, wingArea, clMax⟩

/-- Data read as a record of a name. -/
def record {β : Type} (name : String) (read : Json → Checked β) (data : Json) :
    Except Rejection β :=
  (read data).mapError fun issues => ⟨name, issues⟩

/-- The request for a conversion that data makes. -/
def conversionRecord : Json → Except Rejection ConvertRequest :=
  record "ConvertRequest" conversion

/-- The request for a calculation that data makes. -/
def calculationRecord : Json → Except Rejection CalculationRequest :=
  record "CalculationRequest" calculation

/-- The quantity that data makes. -/
def quantityOf : Json → Except Rejection (Quantity Binary64) := record quantityRecord quantity

end Request

end FlightUnits
