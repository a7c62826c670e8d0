import FlightUnits.Json.Basic
import FlightUnits.WholeNumeral

/-!
# Reading JSON

The reader accepts the JSON grammar and, besides, the names `NaN`, `Infinity` and `-Infinity`. A
number without point and exponent is whole and may have up to 4300 digits; any other is the
nearest real number, infinite when it is too large. Arrays and objects may be nested up to a limit,
and of the fields of one name the last is kept. Each value takes at most two steps and at least one
character, so twice the length of the text bounds the depth of the recursion.
-/

namespace FlightUnits

/-- Why a text is not read as JSON. -/
inductive JsonFault where
  /-- The text is not of the grammar. -/
  | malformed
  /-- A whole number has too many digits. -/
  | tooManyDigits
  /-- Arrays and objects are nested too deeply. -/
  | tooDeep
deriving DecidableEq

namespace Json

/-- The blanks of the JSON grammar. -/
def isBlank (c : Char) : Bool := c == ' ' || c == '\t' || c == '\n' || c == '\r'

/-- The text after its leading blanks. -/
def skipBlanks (s : List Char) : List Char := s.dropWhile isBlank

/-- The value of a hexadecimal digit. -/
def hexDigit? (c : Char) : Option Nat :=
  if '0' ≤ c ∧ c ≤ '9' then some (c.toNat - 48)
  else if 'a' ≤ c ∧ c ≤ 'f' then some (c.toNat - 87)
  else if 'A' ≤ c ∧ c ≤ 'F' then some (c.toNat - 55)
  else none

/-- The character that a one-letter escape stands for. -/
def escaped? (c : Char) : Option Nat :=
  if c = '"' ∨ c = '\\' ∨ c = '/' then some c.toNat
  else if c = 'b' then some 8
  else if c = 'f' then some 12
  else if c = 'n' then some 10
  else if c = 'r' then some 13
  else if c = 't' then some 9
  else none

/-- The codes of a text up to its closing quotation mark, and what follows that. -/
def textCodes : List Char → Option (List Nat × List Char)
  | [] => none
  | '"' :: rest => some ([], rest)
  | '\\' :: 'u' :: a :: b :: c :: d :: rest =>
    match hexDigit? a, hexDigit? b, hexDigit? c, hexDigit? d with
    | some a, some b, some c, some d =>
      (textCodes rest).map fun (codes, rest) =>
        ((((a * 16 + b) * 16 + c) * 16 + d) :: codes, rest)
    | _, _, _, _ => none
  | '\\' :: c :: rest =>
    match escaped? c with
    | some code => (textCodes rest).map fun (codes, rest) => (code :: codes, rest)
    | none => none
  | c :: rest =>
    if c.toNat < 32 ∨ c = '\\' then none
    else (textCodes rest).map fun (codes, rest) => (c.toNat :: codes, rest)

/-- A text after its opening quotation mark. -/
def readText (s : List Char) : Except JsonFault (String × List Char) :=
  match textCodes s with
  | some (codes, rest) => .ok (String.ofList (Text.ofCodes codes), rest)
  | none => .error .malformed

/-- The digits at the start of a text, and what follows them. -/
def digits (s : List Char) : List Char × List Char := s.span Char.isDigit

/-- The fraction of a number, or nothing. -/
def fraction (s : List Char) : List Char × List Char :=
  match s with
  | '.' :: rest =>
    match digits rest with
    | ([], _) => ([], s)
    | (ds, rest) => (ds, rest)
  | _ => ([], s)

/-- The exponent of a number, or nothing. -/
def exponent (s : List Char) : Option Int × List Char :=
  match s with
  | c :: rest =>
    if c = 'e' ∨ c = 'E' then
      let (negative, after) := Binary64.Numeral.sign rest
      match digits after with
      | ([], _) => (none, s)
      | (ds, rest) =>
        let n : Int := Nat.ofDigitChars 10 ds 0
        (some (if negative then -n else n), rest)
    else (none, s)
  | [] => (none, s)

/-- A number without its sign. -/
def readNumber (negative : Bool) (s : List Char) : Except JsonFault (Json × List Char) :=
  let (whole, rest) :=
    match s with
    | '0' :: rest => (['0'], rest)
    | s => digits s
  if whole.isEmpty then .error .malformed
  else
    let (decimals, rest) := fraction rest
    let (power?, rest) := exponent rest
    if decimals.isEmpty && power?.isNone then
      if WholeNumeral.digitLimit < whole.length then .error .tooManyDigits
      else
        let n : Int := Nat.ofDigitChars 10 whole 0
        .ok (int (if negative then -n else n), rest)
    else
      let n := Nat.ofDigitChars 10 (whole ++ decimals) 0
      .ok (real (Binary64.Numeral.scaled negative n (power?.getD 0 - decimals.length)), rest)

/-- Removes a word from the start of a text. -/
def dropWord? (word : String) (s : List Char) : Option (List Char) :=
  if word.toList.isPrefixOf s then some (s.drop word.length) else none

/-- The values that are single words. -/
def words : List (String × Json) :=
  [("null", null), ("true", truth true), ("false", truth false), ("NaN", real (.nan 0)),
    ("Infinity", real (.infinite false)), ("-Infinity", real (.infinite true))]

/-- A word or a number. -/
def readAtom (s : List Char) : Except JsonFault (Json × List Char) :=
  match words.findSome? fun (word, value) => (dropWord? word s).map fun rest => (value, rest) with
  | some found => .ok found
  | none =>
    match s with
    | '-' :: rest => readNumber true rest
    | s => readNumber false s

/-- The number of arrays and objects that may be nested in each other. -/
def depthLimit : Nat := 950

mutual

/-- A value at the start of a text, in which `depth` more levels may be nested. -/
def readValue (depth : Nat) : Nat → List Char → Except JsonFault (Json × List Char)
  | 0, _ => .error .malformed
  | fuel + 1, s =>
    match skipBlanks s with
    | '"' :: rest => (readText rest).map fun (s, rest) => (text s, rest)
    | '[' :: rest =>
      if depth = 0 then .error .tooDeep
      else
        match skipBlanks rest with
        | ']' :: rest => .ok (array [], rest)
        | rest => (readItems (depth - 1) fuel rest).map fun (items, rest) => (array items, rest)
    | '\x7b' :: rest =>
      if depth = 0 then .error .tooDeep
      else
        match skipBlanks rest with
        | '\x7d' :: rest => .ok (object [], rest)
        | rest =>
          (readFields (depth - 1) fuel rest).map fun (fields, rest) =>
            (object (lastFields fields), rest)
    | s => readAtom s

/-- The items of an array up to its closing bracket. -/
def readItems (depth : Nat) : Nat → List Char → Except JsonFault (List Json × List Char)
  | 0, _ => .error .malformed
  | fuel + 1, s => do
    let (item, rest) ← readValue depth fuel s
    match skipBlanks rest with
    | ',' :: rest =>
      let (items, rest) ← readItems depth fuel rest
      return (item :: items, rest)
    | ']' :: rest => return ([item], rest)
    | _ => throw .malformed

/-- The fields of an object up to its closing brace. -/
def readFields (depth : Nat) : Nat → List Char → Except JsonFault (List (String × Json) × List Char)
  | 0, _ => .error .malformed
  | fuel + 1, s =>
    match skipBlanks s with
    | '"' :: rest => do
      let (name, rest) ← readText rest
      match skipBlanks rest with
      | ':' :: rest =>
        let (value, rest) ← readValue depth fuel rest
        match skipBlanks rest with
        | ',' :: rest =>
          let (fields, rest) ← readFields depth fuel rest
          return ((name, value) :: fields, rest)
        | '\x7d' :: rest => return ([(name, value)], rest)
        | _ => throw .malformed
      | _ => throw .malformed
    | _ => throw .malformed

end

/-- The tree that a text denotes. -/
def read (s : String) : Except JsonFault Json := do
  let (value, rest) ← readValue depthLimit (2 * s.length + 2) s.toList
  if (skipBlanks rest).isEmpty then return value else throw .malformed

end Json

end FlightUnits
