import FlightUnits.Proofs.FallibleSteps
import FlightUnits.Script.Operator
import FlightUnits.Standard
import Mathlib.Control.Monad.Basic

/-!
# Operators on quantities

An operator asks its two operands in turn, a named operation checks them first. With a quantity on
either side both come to the operation on operands, with the operands in their order whoever
answers, and both refuse what is neither a number nor a quantity for its type. The refusals differ
in what their texts show: an operator names types only, a named operation shows the value it
refuses, so its refusal is told as such when the value can be written down.
-/

namespace FlightUnits

namespace Failure

/-- The failures of values for their type. -/
def isOfType : Failure → Bool
  | notANumber _ | unsupportedOperand .. | noOperator .. | notRepeatable _ | notJoinable ..
  | noSign .. | notOrdered .. | unhashable _ | noLength _ | noComponents _ | noFirst _
  | notConvertible _ | notReal _ => true
  | _ => false

variable {f : Failure}

lemma settled_of_shownValues_eq_nil (h : f.shownValues = []) : f.settled = f := by
  rw [settled, h]
  rfl

lemma settled_of_shownValues_eq_singleton {v : Value} (h : f.shownValues = [v])
    (hv : v.isWritable) : f.settled = f := by
  rw [settled, h, List.all_cons, hv]
  rfl

end Failure

namespace Value

variable {t : Tables Number} {symbol : Symbol} {a b v : Value} {x y : Operand Number}
  {q : Quantity Number}

/-! ### Named operations -/

/-- What an operation on operands comes to, as an outcome on values. -/
def outcome (s : Except (Fault Number) (Operand Number)) : Except Failure Value :=
  (s.map ofOperand).mapError .fault

@[simp] lemma operand?_ofOperand (x : Operand Number) : (ofOperand x).operand? = some x := by
  cases x <;> rfl

lemma eq_ofOperand_of_operand? (h : v.operand? = some x) : v = ofOperand x := by
  cases v <;> cases h <;> rfl

lemma checked_ofOperand (x : Operand Number) : checked symbol (ofOperand x) = .ok x := by
  rw [checked, operand?_ofOperand]

lemma checked_of_none (h : v.operand? = none) :
    checked symbol v = .error (.unsupportedOperand symbol v) := by
  rw [checked, h]

lemma combine_ofOperand (x y : Operand Number) :
    combine t symbol (ofOperand x) (ofOperand y) = outcome (Operand.apply t symbol x y) := by
  rw [combine, checked_ofOperand, ok_bind, checked_ofOperand, ok_bind, outcome]
  cases Operand.apply t symbol x y <;> rfl

lemma combine_of_left_none (h : a.operand? = none) :
    combine t symbol a b = .error (.unsupportedOperand symbol a) := by
  rw [combine, checked_of_none h, error_bind]

lemma combine_of_right_none (h : b.operand? = none) :
    combine t symbol (ofOperand x) b = .error (.unsupportedOperand symbol b) := by
  rw [combine, checked_ofOperand, ok_bind, checked_of_none h, error_bind]

/-- A named operation refuses the first value that is no operand, and shows it. -/
lemma combine_refuses (h : a.operand? = none ∨ b.operand? = none) :
    ∃ f, combine t symbol a b = .error f ∧ f.isOfType ∧
      (a.isWritable → b.isWritable → f.settled = f) := by
  cases ha : a.operand? with
  | none =>
    exact ⟨_, combine_of_left_none ha, rfl, fun hw _ =>
      Failure.settled_of_shownValues_eq_singleton rfl hw⟩
  | some x =>
    obtain rfl := eq_ofOperand_of_operand? ha
    have hb : b.operand? = none := h.resolve_left (by simp)
    exact ⟨_, combine_of_right_none hb, rfl, fun _ hw =>
      Failure.settled_of_shownValues_eq_singleton rfl hw⟩

/-! ### The answers of quantities -/

lemma leftAnswer?_quantity : leftAnswer? t symbol (quantity q) b =
    if b.operand?.isSome then some (combine t symbol (quantity q) b) else none := rfl

lemma rightAnswer?_quantity : rightAnswer? t symbol a (quantity q) =
    if a.operand?.isSome then some (combine t symbol a (quantity q)) else none := rfl

/-- What is no quantity declines to answer for one on its right. -/
lemma leftAnswer?_of_quantity_right (h : ∀ p, a ≠ quantity p) :
    leftAnswer? t symbol a (quantity q) = none := by
  cases a <;> first | rfl | exact absurd rfl (h _)

/-- What is no operand has no answer to a quantity on its left. -/
lemma rightAnswer?_of_none (h : b.operand? = none) : rightAnswer? t symbol a b = none := by
  cases b <;> first | rfl | cases h

lemma ne_quantity_of_none (h : a.operand? = none) (p : Quantity Number) : a ≠ quantity p := by
  rintro rfl
  cases h

lemma operate_of_left (h : b.operand? = some y) :
    (quantity q).operate t symbol b = combine t symbol (quantity q) b := by
  rw [operate, leftAnswer?_quantity, h, Option.isSome_some, if_pos rfl]

/-- A quantity on the right answers with the operands in their order. -/
lemma operate_of_right (h : a.operand? = some x) :
    a.operate t symbol (quantity q) = combine t symbol a (quantity q) := by
  by_cases ha : ∃ p, a = quantity p
  · obtain ⟨p, rfl⟩ := ha
    exact operate_of_left rfl
  · rw [operate, leftAnswer?_of_quantity_right (not_exists.mp ha), rightAnswer?_quantity, h,
      Option.isSome_some, if_pos rfl]

/-! ### Refusals -/

/-- No sequence is joined with a quantity. -/
lemma append_quantity (s : Sequence) :
    s.append (quantity q) = .error (.notJoinable s.name (quantity q)) := by
  cases s <;> rfl

/-- No sequence is repeated by a quantity. -/
lemma times_quantity (s : Sequence) :
    s.times (quantity q) = .error (.notRepeatable (quantity q)) := rfl

/-- A failure that shows no value is told as it is. -/
lemma refuses_of_eq {answer : Except Failure Value} {f : Failure} (h : answer = .error f)
    (htype : f.isOfType) (hshown : f.shownValues = []) :
    ∃ f, answer = .error f ∧ f.isOfType ∧ f.settled = f :=
  ⟨f, h, htype, Failure.settled_of_shownValues_eq_nil hshown⟩

lemma sequenceAnswer_quantity_left :
    ∃ f, sequenceAnswer symbol (quantity q) b = .error f ∧ f.isOfType ∧ f.settled = f := by
  have hleft : Sequence.ofValue? (quantity q) = none := rfl
  unfold sequenceAnswer
  rw [hleft]
  split
  next hs => cases hs
  next hs => cases hs
  next s _ _ => exact refuses_of_eq (times_quantity s) rfl rfl
  next => exact refuses_of_eq rfl rfl rfl

lemma sequenceAnswer_quantity_right :
    ∃ f, sequenceAnswer symbol a (quantity q) = .error f ∧ f.isOfType ∧ f.settled = f := by
  have hright : Sequence.ofValue? (quantity q) = none := rfl
  unfold sequenceAnswer
  rw [hright]
  split
  next s _ => exact refuses_of_eq (append_quantity s) rfl rfl
  next s _ => exact refuses_of_eq (times_quantity s) rfl rfl
  next hs => cases hs
  next => exact refuses_of_eq rfl rfl rfl

/-- When a quantity declines, nothing else answers. -/
lemma operate_refuses_right (h : b.operand? = none) :
    ∃ f, (quantity q).operate t symbol b = .error f ∧ f.isOfType ∧ f.settled = f := by
  rw [operate, leftAnswer?_quantity, h, Option.isSome_none, if_neg Bool.false_ne_true]
  dsimp only
  rw [rightAnswer?_of_none h]
  exact sequenceAnswer_quantity_left

lemma operate_refuses_left (h : a.operand? = none) :
    ∃ f, a.operate t symbol (quantity q) = .error f ∧ f.isOfType ∧ f.settled = f := by
  rw [operate, leftAnswer?_of_quantity_right (ne_quantity_of_none h), rightAnswer?_quantity, h,
    Option.isSome_none, if_neg Bool.false_ne_true]
  exact sequenceAnswer_quantity_right

/-! ### Signs -/

lemma signed_ofOperand (x : Operand Number) : signed symbol (ofOperand x) = .ok (ofOperand x) := by
  cases x <;> rfl

lemma negate_ofOperand (x : Operand Number) : (ofOperand x).negate = .ok (ofOperand x.negate) := by
  rw [negate, checked_ofOperand, ok_bind, pure_eq_ok]

lemma positive_ofOperand (x : Operand Number) : (ofOperand x).positive = .ok (ofOperand x) := by
  rw [positive, checked_ofOperand, ok_bind, pure_eq_ok]

lemma minus_ofOperand (x : Operand Number) : (ofOperand x).minus = (ofOperand x).negate := by
  rw [minus, signed_ofOperand, ok_bind]

lemma plus_ofOperand (x : Operand Number) : (ofOperand x).plus = (ofOperand x).positive := by
  rw [plus, signed_ofOperand, ok_bind]

end Value

end FlightUnits
