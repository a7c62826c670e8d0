import FlightUnits.Calculator
import FlightUnits.Listing
import FlightUnits.Trace

/-!
# Running the program

What a command line comes to: texts for the output and for the errors, and how the run ends. A help
text ends it with status zero and a wrong command line with status two; a command returns zero with
a result and one with an error. Faults that a command does not report end the run by a crash.
-/

namespace FlightUnits.CommandLine

/-- How a run ends. -/
inductive Ending where
  | returned (status : Nat)
  | exited (status : Nat)
  | crashed (fault : Fault Number)
deriving DecidableEq

/-- The status with which the program leaves; that of a crash is one. -/
def Ending.status : Ending → Nat
  | returned status | exited status => status
  | crashed _ => 1

/-- What a run comes to, and the service that it starts. -/
structure Outcome where
  ending : Ending
  output : String
  errors : String
  served : Option ServeSettings
deriving DecidableEq

/-- Why a command has no result. -/
inductive Trouble where
  | reported (message : String)
  | unreported (fault : Fault Number)

/-- The faults that a command reports. -/
def report {β : Type} (reported : FaultKind → Bool) (result : Except (Fault Number) β) :
    Except Trouble β :=
  result.mapError fun f => if reported f.kind then .reported f.message else .unreported f

/-- A rejection is always reported. -/
def reportRejection {β : Type} (result : Except Rejection β) : Except Trouble β :=
  result.mapError fun r => .reported r.message

/-- A word in the data of a request; a missing word is an empty list. -/
def wordData : Option String → Json
  | some word => .text word
  | none => .array []

/-- A result as JSON or as plain text. -/
def shown (json : Bool) (tree : Json) (plain : String) : String :=
  (if json then tree.indented 0 else plain) ++ "\n"

/-- A quantity of double precision as it is printed. -/
def quantityText (q : Quantity Binary64) : String := (q.map Number.real).text

/-- An operand of double precision as it is printed. -/
def operandText : Operand Binary64 → String
  | .number x => (Number.real x).text
  | .quantity q => quantityText q

/-- The text with blanks up to a width. -/
def padded (width : Nat) (s : String) : String :=
  s ++ String.ofList (List.replicate (width - s.length) ' ')

/-- A line of the listing of units. -/
def unitLine (info : UnitInfo Number) : String :=
  (if info.base then "*" else " ") ++ " " ++ padded 8 info.id.id ++ " " ++
    padded 13 info.dimension.id ++ " " ++ info.description ++ "\n"

/-- The listing of units. -/
def runUnits (t : Tables Number) (s : UnitsSettings) : Except Trouble String := do
  let infos ← report (fun _ => false) (listUnits t.units s.dimension)
  return String.join (infos.map unitLine)

/-- The request of a conversion. -/
def ConvertSettings.request (s : ConvertSettings) : Except Rejection ConvertRequest := do
  let quantity ← Request.quantityOf
    (.object [("value", .real s.value), ("unit", wordData s.unit)])
  Request.conversionRecord
    (.object [("quantity", quantity.toJson), ("to_unit", wordData s.target)])

/-- A conversion. -/
def runConvert (t : Tables Number) (s : ConvertSettings) : Except Trouble String := do
  let request ← reportRejection s.request
  let result ← report FaultKind.isValueFault (convertQuantity t.units request)
  return shown s.json result.toJson (quantityText result.result)

/-- The request of a calculation. -/
def CalculateSettings.request (s : CalculateSettings) : Except Rejection CalculationRequest :=
  Request.calculationRecord
    (.object [
      ("operation", .text s.operation.id),
      ("a", (s.left.map WrittenOperand.toJson).getD (.array [])),
      ("b", (s.right.map WrittenOperand.toJson).getD .null)])

/-- A calculation. -/
def runCalculate (t : Tables Number) (s : CalculateSettings) : Except Trouble String := do
  let request ← reportRejection s.request
  let result ← report FaultKind.isCalculationFault (calculate t request)
  return shown s.json result.toJson (operandText result.result)

/-- The unit of a word; a missing word is shown as an empty list. -/
def unitOfWord : Option String → Except (Fault Number) MeasureUnit
  | some word => (UnitTag.ofText word).resolve ""
  | none => (UnitTag.foreign "[]").resolve ""

/-- The quantity of a value in the unit of a word. -/
def quantityOfWord (x : Binary64) (word : Option String) : Except Trouble (Quantity Binary64) :=
  report FaultKind.isValueFault ((unitOfWord word).map fun unit => ⟨x, unit⟩)

/-- The altitude of a value and a unit as they are written; the value is looked at first. -/
def altitudeOfWords : String × String → Except Trouble (Quantity Binary64)
  | (value, unit) =>
    match Binary64.ofText? value with
    | some x => quantityOfWord x (some unit)
    | none => .error (.reported ("could not convert string to float: " ++ Text.quoted value))

/-- The request for a dynamic pressure; the velocity is looked at first. -/
def PressureSettings.request (s : PressureSettings) : Except Trouble DynamicPressureRequest := do
  let velocity ← quantityOfWord s.value s.unit
  match s.altitude with
  | none => return ⟨velocity, none⟩
  | some words =>
    let altitude ← altitudeOfWords words
    return ⟨velocity, some altitude⟩

/-- A dynamic pressure. -/
def runPressure (t : Tables Number) (s : PressureSettings) : Except Trouble String := do
  let request ← s.request
  let pressure ← report FaultKind.isValueFault (answerPressure t.units request)
  return shown s.json pressure.toJson (quantityText pressure)

namespace Task

/-- The output of a task. -/
def run (t : Tables Number) : Task → Except Trouble String
  | units s => runUnits t s
  | convert s => runConvert t s
  | calculate s => runCalculate t s
  | dynamicPressure s => runPressure t s
  | serve _ => .ok ""

/-- The trace of a task. -/
def trace (t : Tables Number) (task : Task) : List TraceEntry :=
  .running task.command ::
    match task with
    | units _ => []
    | convert s =>
      match s.request with
      | .ok request => request.trace t.units
      | .error _ => []
    | calculate s =>
      match s.request with
      | .ok request => request.trace t
      | .error _ => []
    | dynamicPressure s =>
      match s.request with
      | .ok request => request.trace t.units
      | .error _ => []
    | serve s =>
      match s.port with
      | some port => [.serving (s.host.getD "[]") port]
      | none => []

/-- What a task adds to the errors after its output. -/
def remark : Task → String
  | units _ => "\n* base unit of its dimension\n"
  | _ => ""

/-- The service that a task starts. -/
def served : Task → Option ServeSettings
  | serve s => some s
  | _ => none

/-- What a task comes to, after what was reported before. -/
def outcome (t : Tables Number) (log : String) (task : Task) : Outcome :=
  match task.run t with
  | .ok output => ⟨.returned 0, output, log ++ task.remark, task.served⟩
  | .error (.reported message) => ⟨.returned 1, "", log ++ "Error: " ++ message ++ "\n", none⟩
  | .error (.unreported fault) => ⟨.crashed fault, "", log, none⟩

end Task

/-- What an invocation comes to; without a command it shows the help. -/
def Invocation.outcome (t : Tables Number) (s : Invocation) : Outcome :=
  match s.task with
  | none => ⟨.returned 0, Help.program, "", none⟩
  | some task =>
    let trace := if s.verbose then task.trace t else []
    task.outcome t (String.join (trace.map fun entry => entry.text ++ "\n"))

/-- What the end of reading without settings comes to. -/
def Halt.outcome : Halt → Outcome
  | .shown text => ⟨.exited 0, text, "", none⟩
  | .refused program message => ⟨.exited 2, "", program ++ ": error: " ++ message ++ "\n", none⟩

/-- What the words of a command line come to. -/
def run (t : Tables Number) (words : List String) : Outcome :=
  match Invocation.read words with
  | .ok s => s.outcome t
  | .error halt => halt.outcome

end FlightUnits.CommandLine
