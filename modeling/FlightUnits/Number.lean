import FlightUnits.Binary64.Arithmetic
import FlightUnits.Binary64.Layout

/-!
# Numbers

A number is a whole number of any size or a double precision number. Whole numbers stay whole under
sums and products; where one meets a double, or is divided, it is rounded to the nearest double
first, which fails when it is too large. Division by zero fails for every kind of dividend.
Comparisons between the two kinds are exact.
-/

namespace FlightUnits

/-- The ways in which arithmetic on numbers fails. -/
inductive ArithmeticFault where
  /-- A division by zero; `whole` tells whether both operands were whole numbers. -/
  | divisionByZero (whole : Bool)
  /-- A whole number too large to become a double. -/
  | integerTooLarge
  /-- A quotient of whole numbers too large to be a double. -/
  | quotientTooLarge
  /-- A square too large to be a double. -/
  | powerTooLarge
  /-- A square root of a number below zero. -/
  | negativeRoot
deriving DecidableEq

namespace ArithmeticFault

/-- The text of an arithmetic fault. -/
def message : ArithmeticFault → String
  | divisionByZero whole => if whole then "division by zero" else "float division by zero"
  | integerTooLarge => "int too large to convert to float"
  | quotientTooLarge => "integer division result too large for a float"
  | powerTooLarge => "(34, 'Numerical result out of range')"
  | negativeRoot => "math domain error"

end ArithmeticFault

/-- A whole number or a double precision number. -/
inductive Number where
  | int (n : Int)
  | real (x : Binary64)
deriving DecidableEq

namespace Number

instance : Inhabited Number := ⟨.int 0⟩

/-- The double nearest to a number, infinite when the number is too large. -/
def nearest : Number → Binary64
  | int n => .ofInt n
  | real x => x

/-- The double nearest to a number; a whole number may be too large for one. -/
def toBinary64 : Number → Except ArithmeticFault Binary64
  | int n => if (Binary64.ofInt n).isFinite then .ok (.ofInt n) else .error .integerTooLarge
  | real x => .ok x

/-- The number as a double precision number. -/
def toReal (x : Number) : Except ArithmeticFault Number := x.toBinary64.map real

/-- The sum of two numbers. -/
def add : Number → Number → Except ArithmeticFault Number
  | int m, int n => .ok (int (m + n))
  | x, y => do
    let x ← x.toBinary64
    let y ← y.toBinary64
    .ok (real (x.add y))

/-- The difference of two numbers. -/
def sub : Number → Number → Except ArithmeticFault Number
  | int m, int n => .ok (int (m - n))
  | x, y => do
    let x ← x.toBinary64
    let y ← y.toBinary64
    .ok (real (x.add y.neg))

/-- The product of two numbers. -/
def mul : Number → Number → Except ArithmeticFault Number
  | int m, int n => .ok (int (m * n))
  | x, y => do
    let x ← x.toBinary64
    let y ← y.toBinary64
    .ok (real (x.mul y))

/-- The quotient of two numbers; that of two whole numbers is rounded once. -/
def div : Number → Number → Except ArithmeticFault Number
  | int m, int n =>
    if n = 0 then .error (.divisionByZero true)
    else
      let quotient := Binary64.ofQuotient (decide (m < 0) ^^ decide (n < 0))
        (m.natAbs * Binary64.unitsInOne) n.natAbs
      if quotient.isFinite then .ok (real quotient) else .error .quotientTooLarge
  | x, y => do
    let x ← x.toBinary64
    let y ← y.toBinary64
    if y.isZero then .error (.divisionByZero false) else .ok (real (x.div y))

/-- The square of a number; that of a finite double must be finite. -/
def square : Number → Except ArithmeticFault Number
  | int n => .ok (int (n * n))
  | real x =>
    let y := x.mul x
    if x.isFinite && !y.isFinite then .error .powerTooLarge else .ok (real y)

/-- The square root of a number that is not below zero. -/
def sqrt (x : Number) : Except ArithmeticFault Number := do
  let x ← x.toBinary64
  let y := x.sqrt
  if y.isNaN && !x.isNaN then .error .negativeRoot else .ok (real y)

/-- The number of the opposite sign. -/
def neg : Number → Number
  | int n => int (-n)
  | real x => real x.neg

/-- The number rounded to decimal places; a whole number is kept. -/
def roundPlaces (places : Nat) : Number → Number
  | int n => int n
  | real x => real (x.roundPlaces places)

/-- Whether a whole number is at most a double. -/
def leIntReal (n : Int) : Binary64 → Bool
  | .finite s m => decide (n * Binary64.unitsInOne ≤ m.signed s)
  | .infinite s => !s
  | .nan _ => false

/-- Whether a double is at most a whole number. -/
def leRealInt : Binary64 → Int → Bool
  | .finite s m, n => decide (m.signed s ≤ n * Binary64.unitsInOne)
  | .infinite s, _ => s
  | .nan _, _ => false

/-- Whether one number is at most another, compared exactly. -/
def le : Number → Number → Bool
  | int m, int n => decide (m ≤ n)
  | int m, real y => leIntReal m y
  | real x, int n => leRealInt x n
  | real x, real y => x.le y

/-- Numerical equality, compared exactly; a NaN equals nothing. -/
def eq (x y : Number) : Bool := x.le y && y.le x

/-- Whether two numbers are one and the same: equal, or NaNs of one known origin. -/
def isSame : Number → Number → Bool
  | real x, real y => x.isSame y
  | x, y => x.eq y

/-- Whether a number is neither infinite nor a NaN. -/
def isFinite : Number → Bool
  | int _ => true
  | real x => x.isFinite

/-- The text of a number. -/
def text : Number → String
  | int n => toString n
  | real x => Binary64.Layout.plain.write x

end Number

end FlightUnits
