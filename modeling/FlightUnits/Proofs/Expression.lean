import FlightUnits.Proofs.StandardArithmetic
import FlightUnits.Script.Conversion

/-!
# Expressions over quantities

Trees of operations and conversions over numbers and quantities, and what it takes to evaluate them:
a meaning of every kind of node. A failure comes with the node at which it happens. The machine
evaluates expressions on values; the units alone evaluate them without looking at any value.
-/

namespace FlightUnits

open Standard

/-- A tree of operations and conversions; the values at its leaves are of any type, or mere names. -/
inductive Expression (ι : Type) where
  | leaf (x : Operand ι)
  | combine (symbol : Symbol) (a b : Expression ι)
  | negate (a : Expression ι)
  | positive (a : Expression ι)
  | convert (a : Expression ι) (target : MeasureUnit)

/-- The place of an operand in the node above it. -/
inductive Branch where
  | left
  | right
  | only
deriving DecidableEq

/-- A node of a tree, by the branches from it up to the root. -/
abbrev Node := List Branch

/-- What the nodes of an expression come to. -/
structure Interpretation (ι ε σ : Type) where
  leaf : Operand ι → σ
  combine : Symbol → σ → σ → Except ε σ
  negate : σ → Except ε σ
  positive : σ → Except ε σ
  convert : MeasureUnit → σ → Except ε σ

/-- A step whose failure is told with the node at which it happens. -/
def located {ε σ : Type} (n : Node) (s : Except ε σ) : Except (Node × ε) σ := s.mapError (n, ·)

namespace Expression

variable {ι κ ε σ : Type}

/-- An expression with its leaves under an assignment. -/
def map (ρ : ι → κ) : Expression ι → Expression κ
  | leaf x => leaf (x.map ρ)
  | combine symbol a b => combine symbol (a.map ρ) (b.map ρ)
  | negate a => negate (a.map ρ)
  | positive a => positive (a.map ρ)
  | convert a target => convert (a.map ρ) target

/-- What an expression at the node `n` comes to; the left operand is evaluated first. -/
def evaluate (I : Interpretation ι ε σ) : Expression ι → Node → Except (Node × ε) σ
  | leaf x, _ => .ok (I.leaf x)
  | combine symbol a b, n => do
    let x ← a.evaluate I (.left :: n)
    let y ← b.evaluate I (.right :: n)
    located n (I.combine symbol x y)
  | negate a, n => do
    let x ← a.evaluate I (.only :: n)
    located n (I.negate x)
  | positive a, n => do
    let x ← a.evaluate I (.only :: n)
    located n (I.positive x)
  | convert a target, n => do
    let x ← a.evaluate I (.only :: n)
    located n (I.convert target x)

/-- Whether some leaf is a quantity, which makes every result one. -/
def isQuantity : Expression ι → Bool
  | leaf x => x.unit?.isSome
  | combine _ a b => a.isQuantity || b.isQuantity
  | negate a | positive a | convert a _ => a.isQuantity

/-- Only quantities are converted. -/
def ConvertsQuantities : Expression ι → Prop
  | leaf _ => True
  | combine _ a b => a.ConvertsQuantities ∧ b.ConvertsQuantities
  | negate a | positive a => a.ConvertsQuantities
  | convert a _ => a.ConvertsQuantities ∧ a.isQuantity

end Expression

/-- The kind of a failure that is a fault of the library; others have none. -/
def Failure.kind? : Failure → Option FaultKind
  | fault f => some f.kind
  | _ => none

/-- Whether a failure is a division by zero or an overflow. -/
def Failure.isNumeric (f : Failure) : Bool := f.kind?.any FaultKind.isNumeric

namespace Interpretation

/-- The named operations on values, with the standard tables. -/
def machine : Interpretation Number Failure Value where
  leaf := Value.ofOperand
  combine := Value.combine machineTables
  negate := Value.negate
  positive := Value.positive
  convert target v := Script.convert machineTables.units v (.unit target)

/-- The unit of a converted operand, or how the conversion fails. -/
def convertedUnit (target : MeasureUnit) :
    Option MeasureUnit → Except (Option FaultKind) (Option MeasureUnit)
  | none => .error none
  | some u =>
    if dimension u = dimension target then .ok (some target) else .error (some .dimensionMismatch)

lemma convertedUnit_eq_ok {target : MeasureUnit} {u w : Option MeasureUnit}
    (h : convertedUnit target u = .ok w) : u.isSome ∧ w = some target := by
  unfold convertedUnit at h
  split at h
  · exact nomatch h
  · split at h
    · exact ⟨rfl, (Except.ok.inj h).symm⟩
    · exact nomatch h

lemma convertedUnit_error {target : MeasureUnit} {u : Option MeasureUnit} {k : Option FaultKind}
    (hu : u.isSome) (h : convertedUnit target u = .error k) : k = some .dimensionMismatch := by
  unfold convertedUnit at h
  split at h
  · contradiction
  · split at h
    · exact nomatch h
    · exact (Except.error.inj h).symm

/-- The units of results and the kinds of failures, found without the values. -/
def units (ι : Type) : Interpretation ι (Option FaultKind) (Option MeasureUnit) where
  leaf := Operand.unit?
  combine symbol u v := (resultUnit symbol u v).mapError some
  negate := .ok
  positive := .ok
  convert := convertedUnit

end Interpretation

end FlightUnits
