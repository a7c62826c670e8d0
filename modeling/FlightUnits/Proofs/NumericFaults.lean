import FlightUnits.Proofs.FallibleSteps
import FlightUnits.Scalar

/-!
# Faults that depend on values

A sum, difference, product or quotient of scalars fails only by a division by zero or an overflow,
over the exact and over the machine numbers. These are the numeric kinds of faults; all others are
decided by units and dimensions.
-/

namespace FlightUnits

/-- The kinds of faults that depend on values: divisions by zero and overflows. -/
def FaultKind.isNumeric : FaultKind → Bool
  | .zeroDivision | .overflow => true
  | _ => false

/-- Scalars whose sums, differences, products and quotients fail by numeric faults only. -/
class Scalar.FailsNumerically (α : Type) [Scalar α] : Prop where
  add_error {x y : α} {g : ArithmeticFault} : Scalar.add x y = .error g → g.kind.isNumeric
  sub_error {x y : α} {g : ArithmeticFault} : Scalar.sub x y = .error g → g.kind.isNumeric
  mul_error {x y : α} {g : ArithmeticFault} : Scalar.mul x y = .error g → g.kind.isNumeric
  div_error {x y : α} {g : ArithmeticFault} : Scalar.div x y = .error g → g.kind.isNumeric

instance : Scalar.FailsNumerically Rat where
  add_error h := nomatch h
  sub_error h := nomatch h
  mul_error h := nomatch h
  div_error {x y g} h := by
    change (if y = 0 then _ else _) = _ at h
    split at h
    · exact Except.error.inj h ▸ rfl
    · exact nomatch h

namespace Number

lemma toBinary64_error {x : Number} {g : ArithmeticFault} (h : x.toBinary64 = .error g) :
    g.kind.isNumeric := by
  unfold toBinary64 at h
  split at h
  · split at h
    · exact nomatch h
    · exact Except.error.inj h ▸ rfl
  · exact nomatch h

/-- An operation on doubles fails by itself or by the conversion of an operand. -/
lemma doubles_error {x y : Number} {f : Binary64 → Binary64 → Except ArithmeticFault Number}
    {g : ArithmeticFault} (hf : ∀ a b, f a b = .error g → g.kind.isNumeric)
    (h : (do let a ← x.toBinary64; let b ← y.toBinary64; f a b) = .error g) :
    g.kind.isNumeric := by
  rcases bind_eq_error_iff.mp h with h | ⟨a, -, h⟩
  · exact toBinary64_error h
  · rcases bind_eq_error_iff.mp h with h | ⟨b, -, h⟩
    · exact toBinary64_error h
    · exact hf a b h

lemma total_error {x y : Number} {f : Binary64 → Binary64 → Number} {g : ArithmeticFault}
    (h : (do let a ← x.toBinary64; let b ← y.toBinary64; .ok (f a b)) = .error g) :
    g.kind.isNumeric := by
  refine doubles_error (fun a b hf => ?_) h
  exact nomatch hf

lemma divided_error {x y : Number} {g : ArithmeticFault}
    (h : (do
      let a ← x.toBinary64
      let b ← y.toBinary64
      if b.isZero then .error (.divisionByZero false) else .ok (real (a.div b))) = .error g) :
    g.kind.isNumeric := by
  refine doubles_error (fun a b hf => ?_) h
  split at hf
  · exact Except.error.inj hf ▸ rfl
  · exact nomatch hf

lemma div_ints_error {m n : Int} {g : ArithmeticFault} (h : div (.int m) (.int n) = .error g) :
    g.kind.isNumeric := by
  unfold div at h
  dsimp only at h
  split at h
  · exact Except.error.inj h ▸ rfl
  · split at h
    · exact nomatch h
    · exact Except.error.inj h ▸ rfl

end Number

instance : Scalar.FailsNumerically Number where
  add_error {x y g} h := by
    cases x <;> cases y <;> simp only [Scalar.add, Number.add] at h
    case int.int => exact nomatch h
    all_goals exact Number.total_error h
  sub_error {x y g} h := by
    cases x <;> cases y <;> simp only [Scalar.sub, Number.sub] at h
    case int.int => exact nomatch h
    all_goals exact Number.total_error h
  mul_error {x y g} h := by
    cases x <;> cases y <;> simp only [Scalar.mul, Number.mul] at h
    case int.int => exact nomatch h
    all_goals exact Number.total_error h
  div_error {x y g} h := by
    cases x <;> cases y <;> simp only [Scalar.div, Number.div] at h
    case int.int => exact Number.div_ints_error h
    all_goals exact Number.divided_error h

end FlightUnits
