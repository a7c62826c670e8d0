import FlightUnits.Text.DecimalDigit
import FlightUnits.Text.LineBreak
import FlightUnits.Text.Quoted

/-!
# Grammars of command lines

A grammar over settings `σ` lists flags, which start with a minus sign and may stand anywhere, and
slots, which are filled by the other words in their order. `Grammar.roles` tells the role of each
word: a flag is given by a name, by an unambiguous start of a long name, or by a one-letter name
with its word attached; numbers below zero and words with a blank are no flags; after the first
`--` no word is a flag.
-/

namespace FlightUnits.CommandLine

/-- Why reading a command line ends without settings. -/
inductive Halt where
  /-- A text to show was asked for. -/
  | shown (text : String)
  /-- The words do not follow the grammar of a program. -/
  | refused (program message : String)

/-- Why an argument does not take its words. -/
inductive Complaint where
  /-- The words are not right for the argument. -/
  | misused (message : String)
  /-- Reading ends here. -/
  | ended (halt : Halt)

/-- A flag: its names, the number of words that it takes, and what it does with them. -/
structure Flag (σ : Type) where
  names : List String
  arity : Nat
  act : List String → σ → Except Complaint σ

/-- How many words fill a slot: one, one if there is one, or all from one on. -/
inductive Capacity where
  | one
  | optional
  | remainder
deriving DecidableEq

/-- A slot: its name, how many words fill it, and what it does with them. -/
structure Slot (σ : Type) where
  name : String
  capacity : Capacity
  act : List String → σ → Except Complaint σ

/-- A grammar of command lines over settings `σ`. -/
structure Grammar (σ : Type) where
  program : String
  flags : List (Flag σ)
  slots : List (Slot σ)

/-- A flag as it was given: by which name, and with which word attached. -/
structure GivenFlag (σ : Type) where
  flag : Flag σ
  name : String
  attached : Option String

/-- The role of a word. -/
inductive Role (σ : Type) where
  | flag (given : GivenFlag σ)
  | unknownFlag
  | argument
  | divider

namespace Role

variable {σ : Type}

/-- Whether a word is a flag, known or not. -/
def isFlag : Role σ → Bool
  | flag _ | unknownFlag => true
  | argument | divider => false

/-- Whether a word is an argument. -/
def isArgument : Role σ → Bool
  | argument => true
  | _ => false

/-- Whether a word is the divider. -/
def isDivider : Role σ → Bool
  | divider => true
  | _ => false

end Role

/-- Whether a word is a number below zero without an exponent; a final line break is overlooked. -/
def isNegativeNumeral (word : List Char) : Bool :=
  match Text.dropFinalBreak word with
  | '-' :: digits =>
    match digits.span Text.isDecimalDigit with
    | (whole, []) => !whole.isEmpty
    | (_, '.' :: fraction) => !fraction.isEmpty && fraction.all Text.isDecimalDigit
    | _ => false
  | _ => false

/-- A word cut at its first equals sign: what is before it, and what is after it if there is one. -/
def cutAtEquals (word : List Char) : List Char × Option (List Char) :=
  match word.span (· != '=') with
  | (before, '=' :: after) => (before, some after)
  | (before, _) => (before, none)

namespace Grammar

variable {σ : Type}

/-- The names of all flags in their order, each with its flag. -/
def names (g : Grammar σ) : List (String × Flag σ) :=
  g.flags.flatMap fun f => f.names.map fun name => (name, f)

/-- The flag of a name. -/
def flag? (g : Grammar σ) (name : String) : Option (Flag σ) := g.names.lookup name

/-- The flags that a word may stand for when it is no name of a flag. -/
def candidates (g : Grammar σ) (word : List Char) : List (GivenFlag σ) :=
  match word with
  | '-' :: '-' :: _ =>
    let (start, attached) := cutAtEquals word
    (g.names.filter fun (name, _) => start.isPrefixOf name.toList).map fun (name, f) =>
      ⟨f, name, attached.map String.ofList⟩
  | _ =>
    (g.names.filter fun (name, _) => name.toList == word.take 2).map fun (name, f) =>
      ⟨f, name, some (String.ofList (word.drop 2))⟩

/-- The role of a word that starts with a minus sign and is no name of a flag. -/
def guessedRole (g : Grammar σ) (word : String) : Except Halt (Role σ) :=
  match g.candidates word.toList with
  | [given] => .ok (.flag given)
  | [] =>
    if isNegativeNumeral word.toList || word.toList.contains ' ' then .ok .argument
    else .ok .unknownFlag
  | several =>
    .error (.refused g.program ("ambiguous option: " ++ word ++ " could match " ++
      ", ".intercalate (several.map GivenFlag.name)))

/-- The flag that a word names before an equals sign. -/
def assignedFlag? (g : Grammar σ) (word : String) : Option (GivenFlag σ) :=
  match cutAtEquals word.toList with
  | (name, some attached) =>
    (g.flag? (String.ofList name)).map fun f =>
      ⟨f, String.ofList name, some (String.ofList attached)⟩
  | (_, none) => none

/-- The role of a word before the divider. -/
def role (g : Grammar σ) (word : String) : Except Halt (Role σ) :=
  if word.toList.head? ≠ some '-' then .ok .argument
  else
    match g.flag? word with
    | some f => .ok (.flag ⟨f, word, none⟩)
    | none =>
      if word = "-" then .ok .argument
      else
        match g.assignedFlag? word with
        | some given => .ok (.flag given)
        | none => g.guessedRole word

/-- The words with their roles. -/
def roles (g : Grammar σ) : List String → Except Halt (List (String × Role σ))
  | [] => .ok []
  | word :: words =>
    if word = "--" then .ok ((word, .divider) :: words.map fun w => (w, .argument))
    else do
      let role ← g.role word
      let rest ← g.roles words
      return (word, role) :: rest

end Grammar

end FlightUnits.CommandLine
