import FlightUnits.Script.Equality
import FlightUnits.Script.Failure

/-!
# Order of values

Numbers are ordered by size and texts by the codes of their characters. Lists are ordered by the
first place at which they differ, and so are tuples; where there is none, the shorter comes first.
Other values have no order.
-/

namespace FlightUnits.Value

/-- Whether one of two values that hold no other values is at most the other. -/
def isAtomAtMost (a b : Value) : Except Failure Bool :=
  match a.asNumber?, b.asNumber? with
  | some x, some y => .ok (x.le y)
  | _, _ =>
    match a.asText?, b.asText? with
    | some s, some t => .ok (Text.atMost s.toList t.toList)
    | _, _ => .error (.notOrdered a b)

mutual

/-- Whether one value is at most another. -/
def isAtMost : Value → Value → Except Failure Bool
  | list items, list others => areAtMost items others
  | tuple items, tuple others => areAtMost items others
  | a, b => isAtomAtMost a b

/-- Whether one list of values is at most another. -/
def areAtMost : List Value → List Value → Except Failure Bool
  | [], _ => .ok true
  | _ :: _, [] => .ok false
  | a :: items, b :: others => if a.isSame b then areAtMost items others else isAtMost a b

end

end FlightUnits.Value
