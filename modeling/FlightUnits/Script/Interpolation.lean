import FlightUnits.Flight.Atmosphere
import FlightUnits.Script.Operator
import FlightUnits.Script.Order

/-!
# Interpolation in tables of values

The piecewise linear function as scripts call it. A table of pairs of numbers is interpolated as
such. In any other table samples are looked at from the first on, two at a time, so what is wrong
with one matters only when it is reached, and a sample is taken apart into its two components,
whatever kind of sequence it is.
-/

namespace FlightUnits.Script

/-- The sample that a pair of numbers is. -/
def sample? : Value → Option (Number × Number)
  | .list [.number x, .number y] | .tuple [.number x, .number y] => some (x, y)
  | _ => none

/-- The samples that a table of pairs of numbers has. -/
def samples? : Value → Option (List (Number × Number))
  | .list items | .tuple items => items.mapM sample?
  | _ => none

/-- The parts of a value that can be taken apart. -/
def parts (v : Value) : Except Failure (List Value) :=
  match v, Sequence.ofValue? v with
  | _, some s => .ok s.items
  | .entry q, none =>
    .ok [.tuple [.text "value", .number (.real q.value)], .tuple [.text "unit", .unit q.unit]]
  | v, none => .error (.noComponents v)

/-- The two components of a sample. -/
def components (v : Value) : Except Failure (Value × Value) := do
  let items ← parts v
  match items with
  | [x, y] => return (x, y)
  | items => throw (.componentCount items.length)

/-- Whether a value lies between two others, of which the lower is compared first. -/
def isBetween (low x high : Value) : Except Failure Bool := do
  let above ← low.isAtMost x
  if above then x.isAtMost high else return false

/-- The first pair of neighbouring samples whose inputs enclose a value. -/
def enclosing? (x : Value) :
    List Value → Except Failure (Option ((Value × Value) × (Value × Value)))
  | first :: second :: rest => do
    let p ← components first
    let q ← components second
    let found ← isBetween p.1 x q.1
    if found then return some (p, q) else enclosing? x (second :: rest)
  | _ => return none

/-- The output at a value on the line through two samples. -/
def onLine (t : Tables Number) (x : Value) (p q : Value × Value) : Except Failure Value := do
  let along ← x.operate t .minus p.1
  let width ← q.1.operate t .minus p.1
  let share ← along.operate t .slash width
  let rise ← q.2.operate t .minus p.2
  let change ← share.operate t .times rise
  p.2.operate t .plus change

/-- The first component of a sample. -/
def firstComponent (v : Value) : Except Failure Value :=
  match (Sequence.ofValue? v).bind fun s => s.items.head? with
  | some x => .ok x
  | none => .error (.noFirst v)

/-- The output at a value of the piecewise linear function of a table of any samples. -/
def interpolateAny (t : Tables Number) (x table : Value) : Except Failure Value := do
  match (Sequence.ofValue? table).map Sequence.items with
  | none => throw (.noLength table)
  | some (first :: second :: rest) =>
    let found ← enclosing? x (first :: second :: rest)
    match found with
    | some (p, q) => onLine t x p q
    | none =>
      let low ← firstComponent first
      let high ← firstComponent ((second :: rest).getLastD second)
      throw (.outsideRange x low high)
  | some _ => throw (.fault .tooFewSamples)

/-- The output at a value of the piecewise linear function of a table. -/
def interpolate (t : Tables Number) (x table : Value) : Except Failure Value :=
  match x, samples? table with
  | .number x, some samples => do
    let y ← Flight.interpolate x samples
    return .number y
  | x, _ => interpolateAny t x table

end FlightUnits.Script
