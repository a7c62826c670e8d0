import FlightUnits.Convert

/-!
# Unit-aware arithmetic

Sums and differences combine two plain values, or two quantities of one dimension in the unit of
the left one. A plain value scales a quantity and keeps its unit. The product or quotient of two
quantities is expressed in the base unit of the dimension that the relations give it.
-/

namespace FlightUnits

namespace Operand

variable {α : Type} [Scalar α]

/-- Combines two operands by an operation that needs a common unit. -/
def combine (t : Tables α) (symbol : Symbol) (op : α → α → Except ArithmeticFault α) :
    Operand α → Operand α → Except (Fault α) (Operand α)
  | number x, number y => do
    let z ← op x y
    return number z
  | quantity p, quantity q =>
    if p.unit = q.unit then do
      let z ← op p.value q.value
      return quantity ⟨z, p.unit⟩
    else do
      let q ← q.convert t.units p.unit
      let z ← op p.value q.value
      return quantity ⟨z, p.unit⟩
  | a, b => throw (.mixedOperands symbol a b)

/-- The sum of two operands. -/
def add (t : Tables α) (a b : Operand α) : Except (Fault α) (Operand α) :=
  combine t .plus Scalar.add a b

/-- The difference of two operands. -/
def subtract (t : Tables α) (a b : Operand α) : Except (Fault α) (Operand α) :=
  combine t .minus Scalar.sub a b

/-- The operand of the opposite sign. -/
def negate : Operand α → Operand α
  | number x => number (Scalar.neg x)
  | quantity q => quantity ⟨Scalar.neg q.value, q.unit⟩

/--
Combines two operands by an operation on values and one on dimensions. The roles name the units of
two quantities when one of them is not registered.
-/
def scale (t : Tables α) (op : α → α → Except ArithmeticFault α)
    (dimension : Dimension → Dimension → Except (Fault α) Dimension) (symbol : Symbol) :
    Operand α → Operand α → Except (Fault α) (Operand α)
  | number x, number y => do
    let z ← op x y
    return number z
  | number x, quantity q => do
    let z ← op x q.value
    return quantity ⟨z, q.unit⟩
  | quantity p, number y => do
    let z ← op p.value y
    return quantity ⟨z, p.unit⟩
  | quantity p, quantity q => do
    let left ← t.units.lookup p.unit ("left operand of " ++ symbol.text)
    let right ← t.units.lookup q.unit ("right operand of " ++ symbol.text)
    let dimension ← dimension left.dimension right.dimension
    let unit ← t.units.baseUnitOf dimension
    let x ← left.conversion.toBase p.value
    let y ← right.conversion.toBase q.value
    let z ← op x y
    return quantity ⟨z, unit⟩

/-- The product of two operands. -/
def multiply (t : Tables α) (a b : Operand α) : Except (Fault α) (Operand α) :=
  scale t Scalar.mul (multiplyDimensions t.relations) .times a b

/-- The quotient of two operands. -/
def divide (t : Tables α) (a b : Operand α) : Except (Fault α) (Operand α) :=
  scale t Scalar.div (divideDimensions t.relations) .slash a b

/-- The operation that a symbol stands for. -/
def apply (t : Tables α) : Symbol → Operand α → Operand α → Except (Fault α) (Operand α)
  | .plus => add t
  | .minus => subtract t
  | .times => multiply t
  | .slash => divide t

end Operand

end FlightUnits
