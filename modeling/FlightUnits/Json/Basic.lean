import FlightUnits.Binary64.Layout
import FlightUnits.Text.Quoted

/-!
# JSON trees

Whole numbers and real numbers are told apart, as they are in the text. The fields of an object
keep their order; where a name is repeated, the last field of that name counts. A tree is printed
on one line or with an indentation of two blanks; an infinite number or a NaN is printed as `null`,
and a surrogate code by its escape.
-/

namespace FlightUnits

/-- A JSON tree. -/
inductive Json where
  | null
  | truth (b : Bool)
  | int (n : Int)
  | real (x : Binary64)
  | text (s : String)
  | array (items : List Json)
  | object (fields : List (String × Json))

namespace Json

instance : Inhabited Json := ⟨null⟩

/-- The field of a name in a list of fields: the last of several. -/
def fieldOf? (fields : List (String × Json)) (name : String) : Option Json :=
  (fields.reverse.find? fun field => field.1 == name).map Prod.snd

/-- The field of a name in an object. -/
def field? (tree : Json) (name : String) : Option Json :=
  match tree with
  | object fields => fieldOf? fields name
  | _ => none

/-- The fields that count: of several of one name only the last. -/
def lastFields : List (String × Json) → List (String × Json)
  | [] => []
  | field :: fields =>
    if fields.any fun later => later.1 == field.1 then lastFields fields
    else field :: lastFields fields

mutual

/-- Whether a tree holds a tree with a property; the names of fields count as texts. -/
def holds (p : Json → Bool) : Json → Bool
  | array items => p (array items) || itemsHold p items
  | object fields => p (object fields) || fieldsHold p fields
  | tree => p tree

/-- Whether one of the items of an array holds a tree with a property. -/
def itemsHold (p : Json → Bool) : List Json → Bool
  | [] => false
  | item :: items => holds p item || itemsHold p items

/-- Whether one of the fields of an object holds a tree with a property. -/
def fieldsHold (p : Json → Bool) : List (String × Json) → Bool
  | [] => false
  | (name, value) :: fields => p (text name) || holds p value || fieldsHold p fields

end

/-- Whether a tree is a number that the JSON grammar has no numeral for. -/
def isNonFinite : Json → Bool
  | real x => !x.isFinite
  | _ => false

/-- Whether a tree is a text with a surrogate code in it. -/
def hasSurrogate : Json → Bool
  | text s => Text.hasSurrogate s
  | _ => false

/-- One character of a text in quotation marks. -/
def escapeChar (c : Char) : List Char :=
  if c = '"' ∨ c = '\\' then ['\\', c]
  else if c = '\n' then ['\\', 'n']
  else if c = '\r' then ['\\', 'r']
  else if c = '\t' then ['\\', 't']
  else if c.toNat = 8 then ['\\', 'b']
  else if c.toNat = 12 then ['\\', 'f']
  else if c.toNat < 32 ∨ (Text.surrogate? c).isSome then
    '\\' :: 'u' :: Text.hexadecimal 4 (Text.codeOf c)
  else [c]

/-- A text in quotation marks. -/
def quote (s : String) : String :=
  String.ofList ('"' :: s.toList.flatMap escapeChar ++ ['"'])

/-- A real number, or `null` for one that JSON cannot express. -/
def realText (x : Binary64) : String :=
  if x.isFinite then Binary64.Layout.json.write x else "null"

mutual

/-- A tree on one line, without blanks. -/
def compact : Json → String
  | null => "null"
  | truth b => if b then "true" else "false"
  | int n => toString n
  | real x => realText x
  | text s => quote s
  | array items => "[" ++ ",".intercalate (compactItems items) ++ "]"
  | object fields => "\x7b" ++ ",".intercalate (compactFields fields) ++ "\x7d"

/-- The items of an array on one line each. -/
def compactItems : List Json → List String
  | [] => []
  | item :: items => compact item :: compactItems items

/-- The fields of an object on one line each. -/
def compactFields : List (String × Json) → List String
  | [] => []
  | (name, value) :: fields => (quote name ++ ":" ++ compact value) :: compactFields fields

end

/-- Parts between brackets, one on each line, indented by `depth` and two more blanks. -/
def block (opening closing : String) (depth : Nat) (parts : List String) : String :=
  if parts.isEmpty then opening ++ closing
  else
    let margin := String.ofList (List.replicate depth ' ')
    opening ++ "\n" ++ ",\n".intercalate (parts.map fun part => margin ++ "  " ++ part) ++ "\n" ++
      margin ++ closing

mutual

/-- A tree indented by two blanks a level, starting at `depth`. -/
def indented (depth : Nat) : Json → String
  | null => "null"
  | truth b => if b then "true" else "false"
  | int n => toString n
  | real x => realText x
  | text s => quote s
  | array items => block "[" "]" depth (indentedItems (depth + 2) items)
  | object fields => block "\x7b" "\x7d" depth (indentedFields (depth + 2) fields)

/-- The items of an array, each indented. -/
def indentedItems (depth : Nat) : List Json → List String
  | [] => []
  | item :: items => indented depth item :: indentedItems depth items

/-- The fields of an object, each indented. -/
def indentedFields (depth : Nat) : List (String × Json) → List String
  | [] => []
  | (name, value) :: fields =>
    (quote name ++ ": " ++ indented depth value) :: indentedFields depth fields

end

end Json

end FlightUnits
