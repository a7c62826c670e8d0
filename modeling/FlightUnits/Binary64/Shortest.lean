import FlightUnits.Binary64.Basic

/-!
# The shortest decimal of a magnitude

`Magnitude.shortest` is the decimal with the fewest digits that is read back as the magnitude. For
a growing number of digits it looks at the two neighbours of the exact value on the decimal grid;
the first grid on which a neighbour is read back wins, and of two such neighbours the nearer, an
exact tie going to the even digit. Seventeen digits always suffice.
-/

namespace FlightUnits.Binary64

/-- The decimal number `digits * 10 ^ exponent`. -/
structure Decimal where
  digits : Nat
  exponent : Int
deriving DecidableEq

/--
The number of digits of `n` less one. The fraction `1233 / 4096` lies just below the decimal
logarithm of two, so the first estimate is right or one too small for all `n` in use here.
-/
def log10 (n : Nat) : Nat :=
  let estimate := n.log2 * 1233 / 4096
  if Nat.pow 10 (estimate + 1) ≤ n then estimate + 1 else estimate

/-- The neighbour of `n / d` on the grid of `10 ^ e` that is read, the nearer of two. -/
def readNeighbour? (n d : Nat) (e : Int) (isRead : Decimal → Bool) : Option Decimal :=
  let below : Decimal := ⟨n / d, e⟩
  let above : Decimal := ⟨n / d + 1, e⟩
  match isRead below, isRead above with
  | true, true => some ⟨nearestQuotient n d, e⟩
  | true, false => some below
  | false, true => some above
  | false, false => none

namespace Magnitude

/-- The exponent of the leading decimal digit. -/
def decimalExponent (m : Magnitude) : Int :=
  (log10 (m.units * Nat.pow 10 400 / unitsInOne) : Int) - 400

/-- Whether a decimal is read as the magnitude. -/
def isReadFrom (m : Magnitude) (d : Decimal) : Bool :=
  ofQuotient? (d.digits * Nat.pow 10 d.exponent.toNat * unitsInOne)
    (Nat.pow 10 (-d.exponent).toNat) == some m

/-- The magnitude divided by `10 ^ e`, as numerator and denominator. -/
def overPowerOfTen (m : Magnitude) (e : Int) : Nat × Nat :=
  (m.units * Nat.pow 10 (-e).toNat, unitsInOne * Nat.pow 10 e.toNat)

/-- The neighbour with last digit at `10 ^ e` that is read as the magnitude, the nearer of two. -/
def neighbour? (m : Magnitude) (e : Int) : Option Decimal :=
  let (n, d) := m.overPowerOfTen e
  readNeighbour? n d e m.isReadFrom

/-- Tries `count` grids, each ten times finer than the one before. -/
def search (m : Magnitude) : Nat → Int → Decimal
  | 0, e =>
    let (n, d) := m.overPowerOfTen e
    ⟨nearestQuotient n d, e⟩
  | count + 1, e => (m.neighbour? e).getD (m.search count (e - 1))

/-- The decimal with the fewest digits that is read as the magnitude. -/
def shortest (m : Magnitude) : Decimal :=
  if m.units = 0 then ⟨0, 0⟩ else m.search 16 m.decimalExponent

end Magnitude

end FlightUnits.Binary64
