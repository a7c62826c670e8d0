import FlightUnits.Script.Failure

/-!
# Hash keys of values

Tables and sets find values by a key that equal values share. The key of a number is its residue
modulo `2 ^ 61 - 1`, in which halving is multiplying by `2 ^ 60`, so whole numbers and doubles of
one value have one key. A list has no key, because it could change.
-/

namespace FlightUnits

/-- A part of the key of a value. -/
inductive HashPart where
  | null
  | residue (n : Int)
  /-- A NaN, which only its own origin tells from others. -/
  | nan (mark : Nat)
  | text (s : String)
  | opening
  | closing
deriving DecidableEq

namespace HashPart

/-- The modulus of the keys of numbers. -/
def modulus : Nat := Nat.pow 2 61 - 1

/-- The residue of the unit of double precision numbers, which is `2 ^ -1074`. -/
def unitResidue : Nat := Nat.pow 2 24

/-- The residue of an infinite number. -/
def infinityResidue : Int := 314159

/-- A residue with a sign; the residue `-1` is not used. -/
def ofResidue (negative : Bool) (n : Nat) : HashPart :=
  let signed : Int := if negative then -n else n
  residue (if signed = -1 then -2 else signed)

/-- The key of a number. -/
def ofNumber : Number → HashPart
  | .int n => ofResidue (decide (n < 0)) (n.natAbs % modulus)
  | .real (.finite negative m) => ofResidue negative (m.units * unitResidue % modulus)
  | .real (.infinite negative) => residue (if negative then -infinityResidue else infinityResidue)
  | .real (.nan mark) => nan mark

/-- The key of a text; the empty one shares that of zero. -/
def ofText (s : String) : HashPart := if s.isEmpty then residue 0 else text s

/-- In the residues of numbers the unit of double precision is what `unitsInOne` of make one. -/
theorem unitResidue_mul_unitsInOne : unitResidue * Binary64.unitsInOne % modulus = 1 := by
  decide +kernel

end HashPart

namespace Value

mutual

/-- The key of a value. -/
def hashKey : Value → Except Failure (List HashPart)
  | null => .ok [.null]
  | truth b => .ok [.ofNumber (.int (if b then 1 else 0))]
  | number x => .ok [.ofNumber x]
  | text s => .ok [.ofText s]
  | quantity q => .ok [.opening, .ofNumber q.value, .ofText q.unit.id, .closing]
  | unit u => .ok [.ofText u.id]
  | dimension d => .ok [.ofText d.id]
  | tuple items => do
    let parts ← allHashKeys items
    return .opening :: parts ++ [.closing]
  | list items => .error (.unhashable (list items))
  | entry q => .error (.unhashable (entry q))

/-- The keys of a list of values, one after the other. -/
def allHashKeys : List Value → Except Failure (List HashPart)
  | [] => .ok []
  | item :: items => do
    let part ← hashKey item
    let parts ← allHashKeys items
    return part ++ parts

end

/-- Whether two values have one key. -/
def haveSameHash (a b : Value) : Except Failure Bool := do
  let k ← a.hashKey
  let l ← b.hashKey
  return k = l

end Value

end FlightUnits
