import FlightUnits.Script.Value

/-!
# Equality of values

Two values are one and the same when they are built alike from equal numbers and texts, or count as
equal numbers or texts. A NaN is the same as a NaN of the same known origin, and plain equality of
numbers does not admit even that.
-/

namespace FlightUnits.Value

/-- Whether two values that hold no other values are one and the same. -/
def isSameAtom (a b : Value) : Bool :=
  match a.asNumber?, b.asNumber? with
  | some x, some y => x.isSame y
  | _, _ =>
    match a.asText?, b.asText? with
    | some s, some t => s == t
    | _, _ => false

mutual

/-- Whether two values are one and the same. -/
def isSame : Value → Value → Bool
  | null, null => true
  | quantity p, quantity q => p.isSame q
  | entry p, entry q => (p.map Number.real).isSame (q.map Number.real)
  | list items, list others => areSame items others
  | tuple items, tuple others => areSame items others
  | a, b => isSameAtom a b

/-- Whether the values of two lists are one and the same, pair by pair. -/
def areSame : List Value → List Value → Bool
  | [], [] => true
  | a :: items, b :: others => isSame a b && areSame items others
  | _, _ => false

end

/-- Whether two values are equal; a plain NaN equals nothing. -/
def equal (a b : Value) : Bool :=
  match a, b with
  | number x, number y => x.eq y
  | a, b => isSame a b

/-- The double with a mark of its origin, if it is a NaN that has none. -/
def markReal (mark : Nat) : Binary64 → Binary64
  | .nan 0 => .nan mark
  | x => x

/-- The number with a mark of its origin, if it is a NaN that has none. -/
def markNumber (mark : Nat) : Number → Number
  | .real x => .real (markReal mark x)
  | x => x

mutual

/-- The value with a mark of its origin on every NaN that has none. -/
def marked (mark : Nat) : Value → Value
  | number x => number (markNumber mark x)
  | quantity q => quantity (q.map (markNumber mark))
  | entry q => entry (q.map (markReal mark))
  | list items => list (allMarked mark items)
  | tuple items => tuple (allMarked mark items)
  | v => v

/-- The values with a mark of their origin on every NaN that has none. -/
def allMarked (mark : Nat) : List Value → List Value
  | [] => []
  | item :: items => marked mark item :: allMarked mark items

end

end FlightUnits.Value
