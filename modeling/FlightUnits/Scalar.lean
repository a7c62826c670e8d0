import FlightUnits.Number

/-!
# Scalars

The unit arithmetic and the formulae are written once, over any type of values with the operations
of `Scalar`. There are two instances: `Number`, with the rounding and the faults of machine
arithmetic, and `Rat`, where every operation is exact and only division by zero fails. A `Literal`
is a constant as both of them see it.
-/

namespace FlightUnits

/-- A constant: its exact value, and the number that stands for it in machine arithmetic. -/
structure Literal where
  exact : Rat
  stored : Number

namespace Literal

/-- The whole number `n`. -/
def ofInt (n : Int) : Literal := ⟨n, .int n⟩

/-- The decimal `n / 10 ^ places`, stored as the nearest double. -/
def decimal (n places : Nat) : Literal :=
  ⟨mkRat n (Nat.pow 10 places), .real (.ofDecimal false n (-places))⟩

instance (n : Nat) : OfNat Literal n := ⟨ofInt n⟩

instance : OfScientific Literal where
  ofScientific n negative e :=
    if negative then decimal n e else decimal (n * Nat.pow 10 e) 0

/-- The product of two constants, stored as the product of their doubles. -/
instance : Mul Literal where
  mul a b := ⟨a.exact * b.exact, .real (a.stored.nearest.mul b.stored.nearest)⟩

/-- The quotient of two constants, stored as the quotient of their doubles. -/
instance : Div Literal where
  div a b := ⟨a.exact / b.exact, .real (a.stored.nearest.div b.stored.nearest)⟩

/-- The constant stored as a double. -/
def real (a : Literal) : Literal := ⟨a.exact, .real a.stored.nearest⟩

end Literal

/-- The operations on values that unit arithmetic uses. -/
class Scalar (α : Type) where
  /-- The value of a constant. -/
  ofLiteral : Literal → α
  /-- The sum. -/
  add : α → α → Except ArithmeticFault α
  /-- The difference. -/
  sub : α → α → Except ArithmeticFault α
  /-- The product. -/
  mul : α → α → Except ArithmeticFault α
  /-- The quotient. -/
  div : α → α → Except ArithmeticFault α
  /-- The second power. -/
  square : α → Except ArithmeticFault α
  /-- The value of the opposite sign. -/
  neg : α → α
  /-- The order. -/
  le : α → α → Bool
  /-- The value rounded to decimal places, halves to even. -/
  roundPlaces : Nat → α → α
  /-- The value without its wholeness. -/
  toReal : α → Except ArithmeticFault α

/-- Values that have square roots. -/
class SquareRoot (α : Type) where
  /-- The square root. -/
  sqrt : α → Except ArithmeticFault α

namespace Scalar

variable {α : Type} [Scalar α]

/-- Numerical equality. -/
def eq (x y : α) : Bool := le x y && le y x

/-- A rational number rounded to decimal places, halves to even. -/
def roundRat (places : Nat) (x : Rat) : Rat :=
  mkRat (x.num.sign * nearestQuotient (x.num.natAbs * Nat.pow 10 places) x.den)
    (Nat.pow 10 places)

instance : Scalar Rat where
  ofLiteral a := a.exact
  add x y := .ok (x + y)
  sub x y := .ok (x - y)
  mul x y := .ok (x * y)
  div x y := if y = 0 then .error (.divisionByZero false) else .ok (x / y)
  square x := .ok (x * x)
  neg x := -x
  le x y := decide (x ≤ y)
  roundPlaces := roundRat
  toReal x := .ok x

instance : Scalar Number where
  ofLiteral a := a.stored
  add := Number.add
  sub := Number.sub
  mul := Number.mul
  div := Number.div
  square := Number.square
  neg := Number.neg
  le := Number.le
  roundPlaces := Number.roundPlaces
  toReal := Number.toReal

instance : SquareRoot Number := ⟨Number.sqrt⟩

end Scalar

end FlightUnits
