import FlightUnits.Binary64.Shortest
import FlightUnits.Text.Blank
import FlightUnits.Text.DecimalDigit

/-!
# Reading a number

A numeral is an optional sign and either one of the words `inf`, `infinity` and `nan` in any case
or a decimal: digits with at most one point, at least one digit, and an optional exponent. A single
underscore may stand between two digits, and blanks may surround the whole. Which characters are
digits is a parameter. The number read is the one nearest to the exact decimal. Texts with ASCII
digits alone have a rule of their own for underscores.
-/

namespace FlightUnits.Binary64

/-- What remains of a text after some of it was read. -/
abbrev Reading (α : Type) := α × List Char

namespace Numeral

/-- The further digits of a run: each may follow an underscore. -/
def moreDigits (digit? : Char → Option Nat) : List Char → Reading (List Nat)
  | [] => ([], [])
  | [c] =>
    match digit? c with
    | some n => ([n], [])
    | none => ([], [c])
  | c :: next :: rest =>
    match digit? c, digit? next with
    | some n, _ =>
      let (digits, rest) := moreDigits digit? (next :: rest)
      (n :: digits, rest)
    | none, some n =>
      if c = '_' then
        let (digits, rest) := moreDigits digit? rest
        (n :: digits, rest)
      else ([], c :: next :: rest)
    | none, none => ([], c :: next :: rest)

/-- The digits at the start of a text, a single underscore allowed between two of them. -/
def digitRun (digit? : Char → Option Nat) : List Char → Reading (List Nat)
  | [] => ([], [])
  | c :: rest =>
    match digit? c with
    | some n =>
      let (digits, rest) := moreDigits digit? rest
      (n :: digits, rest)
    | none => ([], c :: rest)

/-- A sign, if there is one: whether it is negative, and what follows. -/
def sign : List Char → Reading Bool
  | '-' :: rest => (true, rest)
  | '+' :: rest => (false, rest)
  | rest => (false, rest)

/-- The natural number with these digits. -/
def ofDigits (digits : List Nat) : Nat := digits.foldl (fun n d => 10 * n + d) 0

/-- The exponent after the letter `e`, or zero without one; nothing may follow it. -/
def exponent? (digit? : Char → Option Nat) : List Char → Option Int
  | [] => some 0
  | c :: rest =>
    if c = 'e' ∨ c = 'E' then
      let (negative, rest) := sign rest
      match digitRun digit? rest with
      | (d :: digits, []) =>
        let n : Int := ofDigits (d :: digits)
        some (if negative then -n else n)
      | _ => none
    else none

/--
The number nearest to `n * 10 ^ e`. What is at least `10 ^ 400` is infinite and what is below
`10 ^ -400` is zero, so no power of ten beyond these is computed.
-/
def scaled (negative : Bool) (n : Nat) (e : Int) : Binary64 :=
  let leading := (log10 n : Int) + e
  if n = 0 ∨ leading < -400 then zero negative
  else if 400 < leading then .infinite negative
  else ofDecimal negative n e

/-- An unsigned decimal with an optional point and exponent. -/
def decimal? (digit? : Char → Option Nat) (negative : Bool) (s : List Char) : Option Binary64 :=
  let (whole, rest) := digitRun digit? s
  let (fraction, rest) :=
    match rest with
    | '.' :: after => digitRun digit? after
    | _ => ([], rest)
  if whole.isEmpty && fraction.isEmpty then none
  else (exponent? digit? rest).map fun e =>
    scaled negative (ofDigits (whole ++ fraction)) (e - fraction.length)

/-- A numeral without blanks around it. -/
def bare? (digit? : Char → Option Nat) (s : List Char) : Option Binary64 :=
  let (negative, rest) := sign s
  let word := String.ofList (rest.map Char.toLower)
  if word = "inf" ∨ word = "infinity" then some (.infinite negative)
  else if word = "nan" then some (.nan 0)
  else decimal? digit? negative rest

end Numeral

/-- The number that a text denotes, with decimal digits of every script. -/
def ofText? (s : String) : Option Binary64 :=
  Numeral.bare? Text.digitValue? (Text.trimBlanks s.toList)

/-- Whether the underscores of a text stand alone and between other characters. -/
def Numeral.isSpaced : List Char → Bool
  | '_' :: '_' :: _ => false
  | ['_'] => false
  | _ :: rest => isSpaced rest
  | [] => true

/--
The number that a text denotes, with ASCII digits only. Underscores may stand between any two
characters, and a text that has one has no blanks around it.
-/
def ofAsciiText? (s : String) : Option Binary64 :=
  let cs := s.toList
  if '_' ∈ cs then
    if cs.head? ≠ some '_' ∧ Numeral.isSpaced cs then
      Numeral.bare? Text.asciiDigitValue? (cs.filter (· != '_'))
    else none
  else Numeral.bare? Text.asciiDigitValue? (Text.trimBlanks cs)

end FlightUnits.Binary64
