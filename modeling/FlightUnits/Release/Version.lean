import FlightUnits.Text.DecimalDigit
import FlightUnits.Text.LineBreak

/-!
# Versions

A version is three runs of decimal digits with dots between them, and perhaps a mark, a dot or a
sign, with letters, digits and dots after it. Digits of every script count in the runs. One line
break at the end is overlooked.
-/

namespace FlightUnits.Release

/-- What follows the digits at the start of a text, if there are any. -/
def afterDigits? (s : List Char) : Option (List Char) :=
  match s.span Text.isDecimalDigit with
  | ([], _) => none
  | (_, rest) => some rest

/-- What follows a dot and digits at the start of a text. -/
def afterDotDigits? : List Char → Option (List Char)
  | '.' :: rest => afterDigits? rest
  | _ => none

/-- A character that may stand in the suffix of a version. -/
def isSuffixChar (c : Char) : Bool := c.isAlphanum || c == '.'

/-- Whether a text is empty or the suffix of a version. -/
def isSuffix : List Char → Bool
  | [] => true
  | mark :: word =>
    (mark == '-' || mark == '.' || mark == '+') && !word.isEmpty && word.all isSuffixChar

/-- Whether a text is a version, to its last character. -/
def isPlainVersion (s : List Char) : Bool :=
  match ((afterDigits? s).bind afterDotDigits?).bind afterDotDigits? with
  | some rest => isSuffix rest
  | none => false

/-- Whether a text is taken for a version. -/
def isVersion (s : String) : Bool := isPlainVersion (Text.dropFinalBreak s.toList)

end FlightUnits.Release
