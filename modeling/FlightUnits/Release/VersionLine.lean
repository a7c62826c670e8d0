import FlightUnits.Text.Blank

/-!
# Version lines

A version line assigns a text in double quotes to a key at the start of a line; spaces, line breaks
among them, may stand around the equals sign. Of a text, the first version line counts: it is cut
out and replaced by one in the plain form.
-/

namespace FlightUnits.Release

/-- What follows a text in double quotes that is not empty. -/
def afterQuoted? : List Char → Option (List Char)
  | '"' :: rest =>
    match rest.span (· != '"') with
    | (_ :: _, '"' :: after) => some after
    | _ => none
  | _ => none

/-- What follows an equals sign and a text in double quotes. -/
def afterAssignment? (s : List Char) : Option (List Char) :=
  match s.dropWhile Text.isSpace with
  | '=' :: rest => afterQuoted? (rest.dropWhile Text.isSpace)
  | _ => none

/-- What follows a version line at the start of a text. -/
def afterVersionLine? (key s : List Char) : Option (List Char) :=
  if key.isPrefixOf s then afterAssignment? (s.drop key.length) else none

/--
The text before and the text after the first version line; `start` tells whether the text begins at
the start of a line.
-/
def cutVersionLine? (key : List Char) (start : Bool) : List Char → Option (List Char × List Char)
  | [] => none
  | c :: rest =>
    match if start then afterVersionLine? key (c :: rest) else none with
    | some after => some ([], after)
    | none =>
      (cutVersionLine? key (c == '\n') rest).map fun (before, after) => (c :: before, after)

/-- The plain version line of a version. -/
def versionLine (key version : List Char) : List Char :=
  key ++ " = \"".toList ++ version ++ ['"']

/-- The text with its first version line replaced by that of a version. -/
def replaceVersionLine? (key version s : List Char) : Option (List Char) :=
  (cutVersionLine? key true s).map fun (before, after) =>
    before ++ versionLine key version ++ after

end FlightUnits.Release
