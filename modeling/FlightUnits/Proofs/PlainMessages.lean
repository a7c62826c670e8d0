import FlightUnits.Proofs.PrintedNumbers
import FlightUnits.Proofs.StandardArithmetic

/-!
# Messages without surrogate codes

A message can be answered only if it holds no surrogate code. The texts of numbers, units and
dimensions hold ASCII characters alone, so a fault that carries nothing else has a plain message:
`isPlain_append` takes a message apart, and its parts are fixed texts or texts of these kinds.
-/

namespace FlightUnits

namespace Text

/-- A text without surrogate codes. -/
def IsPlain (s : String) : Prop := ¬ hasSurrogate s

instance (s : String) : Decidable (IsPlain s) := inferInstanceAs (Decidable (¬ hasSurrogate s))

/-- Characters of ASCII alone. -/
def IsAscii (cs : List Char) : Prop := ∀ c ∈ cs, c.toNat < 128

lemma surrogate?_of_lt {c : Char} (h : c.toNat < 128) : surrogate? c = none := by
  have hbelow : c.toNat - carrierOffset = 0 := by
    unfold carrierOffset
    omega
  rw [surrogate?, hbelow]
  rfl

@[simp] lemma isPlain_append {s t : String} : IsPlain (s ++ t) ↔ IsPlain s ∧ IsPlain t := by
  simp [IsPlain, hasSurrogate]

lemma IsAscii.isPlain {cs : List Char} (h : IsAscii cs) : IsPlain (String.ofList cs) := by
  simp only [IsPlain, hasSurrogate, String.toList_ofList, List.any_eq_true, not_exists, not_and]
  intro c hc
  rw [surrogate?_of_lt (h c hc)]
  exact Bool.false_ne_true

lemma toNat_lt_of_isDigit {c : Char} (h : c.isDigit) : c.toNat < 128 := by
  rw [Char.isDigit, Bool.and_eq_true, decide_eq_true_eq, decide_eq_true_eq] at h
  have hle : c.toNat ≤ '9'.toNat := h.2
  exact Nat.lt_of_le_of_lt hle (by decide)

lemma isAscii_toDigits (n : Nat) : IsAscii (Nat.toDigits 10 n) := by
  intro c hc
  exact toNat_lt_of_isDigit (Nat.isDigit_of_mem_toDigits (by decide) (by decide) hc)

lemma isPlain_natText (n : Nat) : IsPlain (toString n) := (isAscii_toDigits n).isPlain

lemma isPlain_intText (n : Int) : IsPlain (toString n) := by
  cases n with
  | ofNat m => exact isPlain_natText m
  | negSucc m => exact isPlain_append.mpr ⟨by decide, isPlain_natText (m + 1)⟩

end Text

open Text

/-! ### Numbers -/

namespace Binary64

lemma IsNumeric.isAscii {cs : List Char} (h : IsNumeric cs) : IsAscii cs := by
  have hmarks : ∀ c ∈ ['.', '-', '+', 'e'], c.toNat < 128 := by simp
  intro c hc
  rcases h c hc with hdigit | hmark
  · exact toNat_lt_of_isDigit hdigit
  · exact hmarks c hmark

namespace Layout

lemma isPlain_write (style : Layout) (x : Binary64) : IsPlain (style.write x) := by
  cases x with
  | finite s m => exact (isNumeric_finite style s m).isAscii.isPlain
  | infinite s =>
    cases s with
    | false => exact (by decide : IsPlain "inf")
    | true => exact (by decide : IsPlain "-inf")
  | nan mark => exact (by decide : IsPlain "nan")

end Layout

end Binary64

lemma Number.isPlain_text (x : Number) : IsPlain x.text := by
  cases x with
  | int n => exact isPlain_intText n
  | real x => exact Binary64.Layout.isPlain_write _ x

/-! ### Units and operands -/

lemma MeasureUnit.isPlain_id (u : MeasureUnit) : IsPlain u.id := by
  cases u <;> decide

lemma Dimension.isPlain_id (d : Dimension) : IsPlain d.id := by
  cases d <;> decide

lemma Symbol.isPlain_text (s : Symbol) : IsPlain s.text := by
  cases s <;> decide

lemma Operation.isPlain_id (o : Operation) : IsPlain o.id := by
  cases o <;> decide

lemma Standard.isPlain_description (u : MeasureUnit) : IsPlain (Standard.description u) := by
  cases u <;> decide

lemma MeasureUnit.isPlain_shownMember (u : MeasureUnit) : IsPlain (shownMember "Unit" u.id) := by
  cases u <;> decide +kernel

lemma Operand.isPlain_shown (a : Operand Number) : IsPlain a.shown := by
  cases a with
  | number x => exact x.isPlain_text
  | quantity q =>
    have hvalue := q.value.isPlain_text
    have hunit := q.unit.isPlain_shownMember
    unfold Operand.shown Quantity.shown
    simp only [isPlain_append, and_assoc]
    refine ⟨?_, hvalue, ?_, hunit, ?_⟩ <;> decide

/-! ### Faults -/

namespace Fault

/-- A fault that can be answered with its text: its kind is reported, and the text is plain. -/
def IsAnswerable (reported : FaultKind → Bool) (f : Fault Number) : Prop :=
  reported f.kind ∧ IsPlain f.message

lemma IsAnswerable.mono {p q : FaultKind → Bool} {f : Fault Number} (h : f.IsAnswerable p)
    (hpq : ∀ k, p k → q k) : f.IsAnswerable q :=
  ⟨hpq _ h.1, h.2⟩

lemma isPlain_mismatch (u v : MeasureUnit) :
    IsPlain (message (Standard.mismatch u v : Fault Number)) := by
  have hu := Standard.isPlain_description u
  have hv := Standard.isPlain_description v
  have hsource := (Standard.dimension u).isPlain_id
  have htarget := (Standard.dimension v).isPlain_id
  unfold Standard.mismatch message
  simp only [isPlain_append, and_assoc]
  refine ⟨hu, ?_, hsource, ?_, hv, ?_, htarget, ?_⟩ <;> decide

lemma isPlain_mixed (symbol : Symbol) (a b : Operand Number) :
    IsPlain (message (.mixedOperands symbol a b)) := by
  have hsymbol := symbol.isPlain_text
  have ha := a.isPlain_shown
  have hb := b.isPlain_shown
  unfold message
  simp only [isPlain_append, and_assoc]
  refine ⟨?_, hsymbol, ?_, ha, ?_, hb, ?_⟩ <;> decide

lemma isPlain_unresolved (symbol : Symbol) (a b : Dimension) (found : Nat) :
    IsPlain (message (.unresolvedDimension symbol a b found)) := by
  have hfound := isPlain_natText found
  have hreason : IsPlain (if found = 0 then "no relation" else toString found ++ " relations") := by
    split
    · decide
    · exact isPlain_append.mpr ⟨hfound, by decide⟩
  have ha := a.isPlain_id
  have hb := b.isPlain_id
  cases symbol <;>
    · unfold message unresolvedDimensionText
      simp only [isPlain_append, and_assoc]
      refine ⟨?_, ?_, ?_, ha, ?_, ?_, ?_, hb, ?_, hreason, ?_⟩ <;> decide

lemma isPlain_arithmetic (g : ArithmeticFault) : IsPlain (message (.arithmetic g)) := by
  cases g with
  | divisionByZero whole => cases whole <;> decide
  | _ => decide

lemma isPlain_outsideRange (x first last : Number) :
    IsPlain (message (.outsideRange x first last)) := by
  have hx := x.isPlain_text
  have hfirst := first.isPlain_text
  have hlast := last.isPlain_text
  unfold message outsideRangeText
  simp only [isPlain_append, and_assoc]
  refine ⟨hx, ?_, hfirst, ?_, hlast, ?_⟩ <;> decide

lemma isPlain_nonFinite (operation : Operation) (x : Number) :
    IsPlain (message (.nonFinite operation x)) := by
  have hoperation := operation.isPlain_id
  have hx := x.isPlain_text
  unfold message
  simp only [isPlain_append, and_assoc]
  refine ⟨hoperation, ?_, hx, ?_⟩ <;> decide

end Fault

end FlightUnits
