import FlightUnits.Script.Failure

/-!
# Sequences

Texts, lists and tuples are sequences: two of a kind can be joined, and a sequence can be repeated
by a whole number. A number of repetitions has to fit into a signed word of 64 bits, and a sequence
into memory.
-/

namespace FlightUnits

/-- A sequence of characters or values. -/
inductive Sequence where
  | text (s : String)
  | list (items : List Value)
  | tuple (items : List Value)

namespace Sequence

/-- The sequence that a value is. -/
def ofValue? : Value → Option Sequence
  | .list items => some (list items)
  | .tuple items => some (tuple items)
  | v => v.asText?.map text

/-- The name of a kind of sequence. -/
def name : Sequence → String
  | text _ => "str"
  | list _ => "list"
  | tuple _ => "tuple"

/-- The number of characters or values. -/
def length : Sequence → Nat
  | text s => s.length
  | list items | tuple items => items.length

/-- The items of a sequence; those of a text are texts of one character. -/
def items : Sequence → List Value
  | text s => s.toList.map fun c => .text (String.singleton c)
  | list items | tuple items => items

/-- A sequence and a value of its kind, one after the other. -/
def append (s : Sequence) (v : Value) : Except Failure Value :=
  match s, ofValue? v with
  | text s, some (text t) => .ok (.text (s ++ t))
  | list items, some (list others) => .ok (.list (items ++ others))
  | tuple items, some (tuple others) => .ok (.tuple (items ++ others))
  | s, _ => .error (.notJoinable s.name v)

/-- A sequence repeated `n` times. -/
def replicate (n : Nat) : Sequence → Value
  | text s => .text (String.join (List.replicate n s))
  | list items => .list (List.replicate n items).flatten
  | tuple items => .tuple (List.replicate n items).flatten

/-- The first number that is no count of places. -/
def countLimit : Nat := Nat.pow 2 63

/-- The first length for which there is no memory. -/
def memoryLimit : Nat := Nat.pow 2 31

/-- Why a sequence of some length is too long. -/
def tooLong (s : Sequence) (length : Nat) : Failure :=
  match s with
  | text _ => if countLimit ≤ length then .textTooLong else .outOfMemory
  | _ => .outOfMemory

/-- A sequence repeated by a value; by a negative number, not at all. -/
def times (s : Sequence) (count : Value) : Except Failure Value :=
  match count.asWhole? with
  | none => .error (.notRepeatable count)
  | some n =>
    let repetitions := if s.length = 0 then 0 else n.toNat
    if n < -countLimit ∨ countLimit ≤ n then .error .countTooLarge
    else if s.length * repetitions < memoryLimit then .ok (s.replicate repetitions)
    else .error (tooLong s (s.length * repetitions))

end Sequence

end FlightUnits
