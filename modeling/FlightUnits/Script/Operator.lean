import FlightUnits.Arithmetic
import FlightUnits.Script.Sequence

/-!
# Operators on values

The named operations check that their operands are numbers or quantities. The operators `+`, `-`,
`*` and `/` ask the left operand first: it answers or declines; if it declines, a quantity on the
right is asked, and if that declines too, a sequence is. What counts as a number answers when both
operands do. A quantity answers exactly when the other operand is a number or a quantity, by the
named operation on the operands in their order.
-/

namespace FlightUnits.Value

/-- A value as an operand of a named operation. -/
def checked (symbol : Symbol) (v : Value) : Except Failure (Operand Number) :=
  match v.operand? with
  | some a => .ok a
  | none => .error (.unsupportedOperand symbol v)

/-- The named operation of a symbol. -/
def combine (t : Tables Number) (symbol : Symbol) (a b : Value) : Except Failure Value := do
  let a ← checked symbol a
  let b ← checked symbol b
  let result ← Operand.apply t symbol a b
  return ofOperand result

/-- The named operation that turns the sign. -/
def negate (v : Value) : Except Failure Value := do
  let a ← checked .minus v
  return ofOperand a.negate

/-- The named operation that keeps the sign. -/
def positive (v : Value) : Except Failure Value := do
  let _ ← checked .plus v
  return v

/-- The answer of the left operand of an operator, unless it declines. -/
def leftAnswer? (t : Tables Number) (symbol : Symbol) (a b : Value) :
    Option (Except Failure Value) :=
  match a.asNumber?, b.asNumber? with
  | some x, some y => some (combine t symbol (number x) (number y))
  | _, _ =>
    match a with
    | quantity _ => if b.operand?.isSome then some (combine t symbol a b) else none
    | _ => none

/-- The answer of the right operand of an operator, unless it declines. -/
def rightAnswer? (t : Tables Number) (symbol : Symbol) (a b : Value) :
    Option (Except Failure Value) :=
  match b with
  | quantity _ => if a.operand?.isSome then some (combine t symbol a b) else none
  | _ => none

/-- The answer when no number and no quantity has one: sequences are joined and repeated. -/
def sequenceAnswer (symbol : Symbol) (a b : Value) : Except Failure Value :=
  match symbol, Sequence.ofValue? a, Sequence.ofValue? b with
  | .plus, some s, _ => s.append b
  | .times, some s, _ => s.times b
  | .times, none, some s => s.times a
  | symbol, _, _ => .error (.noOperator symbol a b)

/-- An operator applied to two values. -/
def operate (t : Tables Number) (symbol : Symbol) (a b : Value) : Except Failure Value :=
  match leftAnswer? t symbol a b with
  | some answer => answer
  | none =>
    match rightAnswer? t symbol a b with
    | some answer => answer
    | none => sequenceAnswer symbol a b

/-- The operand of a sign operator: the number that a value counts as, or a quantity. -/
def signed (symbol : Symbol) (v : Value) : Except Failure Value :=
  match v.asNumber?, v with
  | some x, _ => .ok (number x)
  | none, quantity q => .ok (quantity q)
  | none, v => .error (.noSign symbol v)

/-- The sign operator `-`. -/
def minus (v : Value) : Except Failure Value := do
  let v ← signed .minus v
  negate v

/-- The sign operator `+`. -/
def plus (v : Value) : Except Failure Value := do
  let v ← signed .plus v
  positive v

end FlightUnits.Value
