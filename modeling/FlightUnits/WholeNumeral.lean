import FlightUnits.Binary64.Numeral

/-!
# Numerals of whole numbers

A whole number is written in decimal digits of any script, with an optional sign, single
underscores between digits and blanks around it. Neither a numeral that is read nor one that is
written has more than 4300 digits. The lemma says that the sign does not count among them.
-/

namespace FlightUnits.WholeNumeral

/-- The greatest number of digits of a whole number. -/
def digitLimit : Nat := 4300

/-- Why a text is not read as a whole number. -/
inductive Refusal where
  /-- The text is no numeral. -/
  | malformed
  /-- The numeral has too many digits. -/
  | tooManyDigits (count : Nat)
deriving DecidableEq

/-- The whole number that a text denotes. -/
def read (s : String) : Except Refusal Int :=
  let (negative, rest) := Binary64.Numeral.sign (Text.trimBlanks s.toList)
  match Binary64.Numeral.digitRun Text.digitValue? rest with
  | (d :: digits, []) =>
    if digitLimit < (d :: digits).length then .error (.tooManyDigits (d :: digits).length)
    else
      let n : Int := Binary64.Numeral.ofDigits (d :: digits)
      .ok (if negative then -n else n)
  | _ => .error .malformed

/-- The whole number that a text denotes, if it denotes one. -/
def read? (s : String) : Option Int := (read s).toOption

/-- Whether a whole number can be written. -/
def isWritable (n : Int) : Bool := decide (n.natAbs < Nat.pow 10 digitLimit)

theorem isWritable_neg (n : Int) : isWritable (-n) = isWritable n := by
  simp [isWritable]

end FlightUnits.WholeNumeral
