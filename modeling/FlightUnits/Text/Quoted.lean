import FlightUnits.Text.Printable
import FlightUnits.Text.Surrogate

/-!
# Quoted texts

A text is quoted with apostrophes, or with double quotes when it holds an apostrophe and no double
quote. The quote in use and the backslash are escaped by a backslash, line breaks and tabs have
short escapes, and other characters that are not printable are written by their code, as are
surrogates.
-/

namespace FlightUnits.Text

/-- `n` in hexadecimal with at least `width` digits. -/
def hexadecimal (width n : Nat) : List Char :=
  let digits := Nat.toDigits 16 n
  List.replicate (width - digits.length) '0' ++ digits

/-- A code as an escape of the shortest kind that has room for it. -/
def escapeCode (code : Nat) : List Char :=
  if code < 0x100 then '\\' :: 'x' :: hexadecimal 2 code
  else if code < 0x10000 then '\\' :: 'u' :: hexadecimal 4 code
  else '\\' :: 'U' :: hexadecimal 8 code

/-- One character of a text that is quoted by `quote`. -/
def escapeChar (quote c : Char) : List Char :=
  if c = quote ∨ c = '\\' then ['\\', c]
  else if c = '\n' then ['\\', 'n']
  else if c = '\r' then ['\\', 'r']
  else if c = '\t' then ['\\', 't']
  else if isPrintable c then [c]
  else escapeCode (codeOf c)

/-- The quotation mark chosen for a text. -/
def quoteFor (s : List Char) : Char :=
  if '\'' ∈ s ∧ '"' ∉ s then '"' else '\''

/-- The text in quotation marks. -/
def quoted (s : String) : String :=
  let quote := quoteFor s.toList
  String.ofList (quote :: s.toList.flatMap (escapeChar quote) ++ [quote])

end FlightUnits.Text
