import FlightUnits.Binary64.Shortest

/-!
# Writing a number

Numbers are written with the digits of their shortest decimal: positionally, and always with a
point, while the exponent of the leading digit is below sixteen and not too negative, otherwise
with one digit before the point and a signed exponent. A layout fixes where positional writing
ends on the small side and how wide an exponent is at least.
-/

namespace FlightUnits.Binary64

/-- The choices in which the two layouts of a number differ. -/
structure Layout where
  /-- The least exponent of the leading digit that is written positionally. -/
  leastExponent : Int
  /-- The least number of digits of a written exponent. -/
  exponentWidth : Nat

namespace Layout

/-- The layout of plain text: positional from `0.0001`, exponents of at least two digits. -/
def plain : Layout := ⟨-4, 2⟩

/-- The layout of JSON: positional from `0.00001`, exponents without padding. -/
def json : Layout := ⟨-5, 1⟩

/-- The digits of a decimal with trailing zeros dropped, and the exponent of the leading digit. -/
def leading (d : Decimal) : List Char × Int :=
  let digits := Nat.toDigits 10 d.digits
  let kept := (digits.reverse.dropWhile (· == '0')).reverse
  (if kept.isEmpty then ['0'] else kept, d.exponent + digits.length - 1)

/-- Digits written positionally, the first one standing for `10 ^ e`. -/
def positional (digits : List Char) (e : Int) : List Char :=
  if e < 0 then
    '0' :: '.' :: (List.replicate (-e - 1).toNat '0' ++ digits)
  else
    let wholes := e.toNat + 1
    let fraction := digits.drop wholes
    digits.take wholes ++ List.replicate (wholes - digits.length) '0' ++
      '.' :: (if fraction.isEmpty then ['0'] else fraction)

/-- Digits written with one digit before the point and the exponent `e`. -/
def scientific (width : Nat) (digits : List Char) (e : Int) : List Char :=
  let power := Nat.toDigits 10 e.natAbs
  digits.take 1 ++ (if digits.length = 1 then [] else '.' :: digits.drop 1) ++
    'e' :: (if e < 0 then '-' else '+') ::
      (List.replicate (width - power.length) '0' ++ power)

/-- The characters of a finite number. -/
def finite (style : Layout) (negative : Bool) (m : Magnitude) : List Char :=
  let (digits, e) := leading m.shortest
  (if negative then ['-'] else []) ++
    if style.leastExponent ≤ e ∧ e < 16 then positional digits e
    else scientific style.exponentWidth digits e

/-- The text of a number. -/
def write (style : Layout) : Binary64 → String
  | .finite s m => String.ofList (style.finite s m)
  | .infinite s => if s then "-inf" else "inf"
  | .nan _ => "nan"

end Layout

end FlightUnits.Binary64
