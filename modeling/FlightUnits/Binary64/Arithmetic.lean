import FlightUnits.Binary64.Basic

/-!
# Arithmetic on double precision numbers

Each operation takes the exact result in units and rounds it once, to nearest with halves to even.
The rules for zeros, infinities and NaNs are those of IEEE 754: an exact zero sum is positive
unless both addends are negative, a product or quotient has the exclusive or of the signs, and an
operation without a meaningful result gives a NaN.
-/

namespace FlightUnits.Binary64

/-- The number of the opposite sign. -/
def neg : Binary64 → Binary64
  | .finite s m => .finite (!s) m
  | .infinite s => .infinite (!s)
  | .nan _ => .nan 0

/-- The sum of two numbers. -/
def add : Binary64 → Binary64 → Binary64
  | .nan _, _ => .nan 0
  | _, .nan _ => .nan 0
  | .infinite s, .infinite t => if s == t then .infinite s else .nan 0
  | .infinite s, .finite _ _ => .infinite s
  | .finite _ _, .infinite t => .infinite t
  | .finite s a, .finite t b =>
    let sum := a.signed s + b.signed t
    if sum = 0 then zero (s && t)
    else ofQuotient (decide (sum < 0)) sum.natAbs 1

/-- The product of two numbers. -/
def mul : Binary64 → Binary64 → Binary64
  | .nan _, _ => .nan 0
  | _, .nan _ => .nan 0
  | .infinite s, .infinite t => .infinite (s ^^ t)
  | .infinite s, .finite t b => if b.units = 0 then .nan 0 else .infinite (s ^^ t)
  | .finite s a, .infinite t => if a.units = 0 then .nan 0 else .infinite (s ^^ t)
  | .finite s a, .finite t b => ofQuotient (s ^^ t) (a.units * b.units) unitsInOne

/-- The quotient of two numbers; a nonzero number divided by zero is infinite. -/
def div : Binary64 → Binary64 → Binary64
  | .nan _, _ => .nan 0
  | _, .nan _ => .nan 0
  | .infinite _, .infinite _ => .nan 0
  | .infinite s, .finite t _ => .infinite (s ^^ t)
  | .finite s _, .infinite t => zero (s ^^ t)
  | .finite s a, .finite t b =>
    if b.units = 0 then
      if a.units = 0 then .nan 0 else .infinite (s ^^ t)
    else ofQuotient (s ^^ t) (a.units * unitsInOne) b.units

/--
The square root of a number, not a number below zero. The whole root of the scaled magnitude has
more than a hundred spare bits, so one further bit that tells an exact root from an inexact one
decides every rounding.
-/
def sqrt : Binary64 → Binary64
  | .nan _ => .nan 0
  | .infinite s => if s then .nan 0 else .infinite false
  | .finite s m =>
    if m.units = 0 then .finite s m
    else if s then .nan 0
    else
      let square := m.units * unitsInOne
      let root := square.sqrt
      ofQuotient false (2 * root + if root * root = square then 0 else 1) 2

/-- The number rounded to `places` decimal places, halves to even; the sign is kept. -/
def roundPlaces (places : Nat) : Binary64 → Binary64
  | .finite s m =>
    let steps := nearestQuotient (m.units * Nat.pow 10 places) unitsInOne
    ofQuotient s (steps * unitsInOne) (Nat.pow 10 places)
  | .infinite s => .infinite s
  | .nan _ => .nan 0

/-- Whether one number is at most another; a NaN compares with nothing. -/
def le : Binary64 → Binary64 → Bool
  | .nan _, _ => false
  | _, .nan _ => false
  | .infinite s, .infinite t => s || !t
  | .infinite s, .finite _ _ => s
  | .finite _ _, .infinite t => !t
  | .finite s a, .finite t b => decide (a.signed s ≤ b.signed t)

/-- Numerical equality: the zeros are equal, a NaN equals nothing. -/
def eq (x y : Binary64) : Bool := x.le y && y.le x

end FlightUnits.Binary64
