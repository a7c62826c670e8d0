import FlightUnits.CommandLine.Help
import FlightUnits.CommandLine.Operand
import FlightUnits.CommandLine.Reading
import FlightUnits.WholeNumeral

/-!
# Invocations of the program

What the words of a command line ask for: a command with its settings, or none. Each command has a
grammar of its own for the words after it; words that it does not know are complained about by the
program, after everything else is in order. A word that is a second divider `--` leaves its slot
without a word, so the words of slots are optional in the settings.
-/

namespace FlightUnits.CommandLine

/-- The settings of the listing of units. -/
structure UnitsSettings where
  dimension : Option Dimension

/-- The settings of a conversion. -/
structure ConvertSettings where
  value : Binary64
  unit : Option String
  target : Option String
  json : Bool

/-- The settings of a calculation. -/
structure CalculateSettings where
  operation : Operation
  left : Option WrittenOperand
  right : Option WrittenOperand
  json : Bool

/-- The settings of a question for a dynamic pressure; an altitude is a value and a unit. -/
structure PressureSettings where
  value : Binary64
  unit : Option String
  altitude : Option (String × String)
  json : Bool

/-- The settings of the service. -/
structure ServeSettings where
  host : Option String
  port : Option Int
  reload : Bool
deriving DecidableEq

/-- A command with its settings. -/
inductive Task where
  | units (settings : UnitsSettings)
  | convert (settings : ConvertSettings)
  | calculate (settings : CalculateSettings)
  | dynamicPressure (settings : PressureSettings)
  | serve (settings : ServeSettings)

namespace Task

/-- The command of a task. -/
def command : Task → Command
  | units _ => .units
  | convert _ => .convert
  | calculate _ => .calculate
  | dynamicPressure _ => .dynamicPressure
  | serve _ => .serve

end Task

/-- What a command line asks for, and the words after the command that it does not know. -/
structure Invocation where
  verbose : Bool
  task : Option Task
  extras : List String

/-- What a word of a kind means, or the complaint that it is not of that kind. -/
def wordOfKind {β : Type} (kind : String) (read : String → Option β) (word : String) :
    Except Complaint β :=
  match read word with
  | some x => .ok x
  | none => .error (.misused ("invalid " ++ kind ++ " value: " ++ Text.quoted word))

/-- What one of some words means, or the complaint that it is none of them. -/
def wordAmong {β : Type} (choices : List String) (read : String → Option β) (word : String) :
    Except Complaint β :=
  match read word with
  | some x => .ok x
  | none =>
    .error (.misused ("invalid choice: " ++ Text.quoted word ++ " (choose from " ++
      ", ".intercalate (choices.map Text.quoted) ++ ")"))

/-- What a word means as an operand. -/
def wordAsOperand (word : String) : Except Complaint WrittenOperand :=
  match WrittenOperand.ofText? word with
  | some x => .ok x
  | none => .error (.misused (WrittenOperand.complaint word))

variable {σ : Type}

/-- Settings changed by a single word, and kept without one. -/
def withWord {β : Type} (read : String → Except Complaint β) (set : β → σ → σ) :
    List String → σ → Except Complaint σ
  | [word], s => (read word).map fun x => set x s
  | _, s => .ok s

/-- The flag that shows a help text. -/
def helpFlag (text : String) : Flag σ :=
  ⟨["-h", "--help"], 0, fun _ _ => .error (.ended (.shown text))⟩

/-- A flag that changes the settings and takes no words. -/
def switch (names : List String) (set : σ → σ) : Flag σ := ⟨names, 0, fun _ s => .ok (set s)⟩

/-- The grammar of the listing of units. -/
def unitsGrammar : Grammar UnitsSettings where
  program := Command.units.program
  flags := [
    helpFlag Help.units,
    ⟨["--dimension", "-d"], 1, fun words s => match words with
      | [word] => (wordAmong (Dimension.all.map Dimension.id) Dimension.ofId? word).map
          fun d => { s with dimension := some d }
      | _ => .ok { s with dimension := none }⟩]
  slots := []

/-- The grammar of conversions. -/
def convertGrammar : Grammar ConvertSettings where
  program := Command.convert.program
  flags := [
    helpFlag Help.convert,
    switch ["--json"] fun s => { s with json := true }]
  slots := [
    ⟨"value", .one, withWord (wordOfKind "float" Binary64.ofText?)
      fun x s => { s with value := x }⟩,
    ⟨"unit", .one, withWord .ok fun word s => { s with unit := some word }⟩,
    ⟨"to_unit", .one, withWord .ok fun word s => { s with target := some word }⟩]

/-- The grammar of calculations. -/
def calculateGrammar : Grammar CalculateSettings where
  program := Command.calculate.program
  flags := [
    helpFlag Help.calculate,
    switch ["--json"] fun s => { s with json := true }]
  slots := [
    ⟨"operation", .one, withWord (wordAmong (Operation.all.map Operation.id) Operation.ofId?)
      fun o s => { s with operation := o }⟩,
    ⟨"a", .one, withWord wordAsOperand fun a s => { s with left := some a }⟩,
    ⟨"b", .optional, withWord wordAsOperand fun b s => { s with right := some b }⟩]

/-- The grammar of questions for a dynamic pressure. -/
def pressureGrammar : Grammar PressureSettings where
  program := Command.dynamicPressure.program
  flags := [
    helpFlag Help.dynamicPressure,
    ⟨["--altitude", "-a"], 2, fun words s => match words with
      | [value, unit] => .ok { s with altitude := some (value, unit) }
      | _ => .ok s⟩,
    switch ["--json"] fun s => { s with json := true }]
  slots := [
    ⟨"value", .one, withWord (wordOfKind "float" Binary64.ofText?)
      fun x s => { s with value := x }⟩,
    ⟨"unit", .one, withWord .ok fun word s => { s with unit := some word }⟩]

/-- The grammar of the service. -/
def serveGrammar : Grammar ServeSettings where
  program := Command.serve.program
  flags := [
    helpFlag Help.serve,
    ⟨["--host"], 1, fun words s => .ok { s with host := words.head? }⟩,
    ⟨["--port", "-p"], 1, fun words s => match words with
      | [word] => (wordOfKind "int" WholeNumeral.read? word).map fun n => { s with port := some n }
      | _ => .ok { s with port := none }⟩,
    switch ["--reload"] fun s => { s with reload := true }]
  slots := []

/-- A command with the settings that the words after it make, and the words left over. -/
def readTask (words : List String) : Command → Except Halt (Task × List String)
  | .units => do
    let (s, extras) ← unitsGrammar.read words ⟨none⟩
    return (.units s, extras)
  | .convert => do
    let (s, extras) ← convertGrammar.read words ⟨.zero false, none, none, false⟩
    return (.convert s, extras)
  | .calculate => do
    let (s, extras) ← calculateGrammar.read words ⟨.add, none, none, false⟩
    return (.calculate s, extras)
  | .dynamicPressure => do
    let (s, extras) ← pressureGrammar.read words ⟨.zero false, none, none, false⟩
    return (.dynamicPressure s, extras)
  | .serve => do
    let (s, extras) ← serveGrammar.read words ⟨some "127.0.0.1", some 8000, false⟩
    return (.serve s, extras)

/-- The command of the first of some words, with the settings that the other words make. -/
def actOnCommand : List String → Invocation → Except Complaint Invocation
  | [], s => .ok s
  | word :: words, s => do
    let command ← wordAmong (Command.all.map Command.word) Command.ofWord? word
    let (task, extras) ← (readTask words command).mapError Complaint.ended
    return { s with task := some task, extras := s.extras ++ extras }

/-- The grammar of the program. -/
def programGrammar : Grammar Invocation where
  program := Program.name
  flags := [
    helpFlag Help.program,
    ⟨["--version"], 0, fun _ _ =>
      .error (.ended (.shown (Program.name ++ " " ++ Program.version ++ "\n")))⟩,
    switch ["--verbose", "-v"] fun s => { s with verbose := true }]
  slots := [⟨"command", .remainder, actOnCommand⟩]

/-- What the words of a command line ask for. -/
def Invocation.read (words : List String) : Except Halt Invocation :=
  programGrammar.readAll words ⟨false, none, []⟩ Invocation.extras

end FlightUnits.CommandLine
