import FlightUnits.Arithmetic
import FlightUnits.Proofs.DimensionAlgebra
import FlightUnits.Proofs.NumericFaults

/-!
# Arithmetic with the standard tables

With the standard tables no step of a conversion or of an operation fails for want of an entry or
of a base unit. Besides numeric faults only the comparison of dimensions and the relation between
them are left to fail, and both these and the unit of a result follow from the units of the
operands: `resultUnit` finds them without the values.
-/

namespace FlightUnits

open Standard

variable {α : Type}

/-- The unit of an operand, if it has one. -/
def Operand.unit? : Operand α → Option MeasureUnit
  | .number _ => none
  | .quantity q => some q.unit

@[simp] lemma Operand.unit?_negate [Scalar α] (x : Operand α) : x.negate.unit? = x.unit? := by
  cases x <;> rfl

namespace Standard

/-- The fault of a conversion between units of different dimensions. -/
def mismatch (u v : MeasureUnit) : Fault α :=
  .dimensionMismatch (description u) (dimension u).id (description v) (dimension v).id

/-- The kinds of failures that units decide. -/
def decidedByUnits : List FaultKind := [.mixedOperands, .dimensionMismatch, .unresolvedDimension]

/-- The unit of a sum or difference of operands with the given units, or how it fails. -/
def combinedUnit : Option MeasureUnit → Option MeasureUnit → Except FaultKind (Option MeasureUnit)
  | none, none => .ok none
  | some u, some v => if dimension u = dimension v then .ok (some u) else .error .dimensionMismatch
  | _, _ => .error .mixedOperands

/-- The base unit of the only dimension that was found. -/
def relatedUnit : List Dimension → Except FaultKind (Option MeasureUnit)
  | [d] => .ok (some (baseUnit d))
  | _ => .error .unresolvedDimension

/-- The unit of a product or quotient of operands with the given units, or how it fails. -/
def scaledUnit (found : Dimension → Dimension → List Dimension) :
    Option MeasureUnit → Option MeasureUnit → Except FaultKind (Option MeasureUnit)
  | none, none => .ok none
  | some u, some v => relatedUnit (found (dimension u) (dimension v))
  | some u, none | none, some u => .ok (some u)

/-- The unit of what an operation makes of operands with the given units, or how it fails. -/
def resultUnit : Symbol → Option MeasureUnit → Option MeasureUnit →
    Except FaultKind (Option MeasureUnit)
  | .plus | .minus => combinedUnit
  | .times => scaledUnit (products relations)
  | .slash => scaledUnit (cofactors relations)

lemma relatedUnit_products {a b : Dimension} {f : Fault α}
    (h : multiplyDimensions relations a b = .error f) :
    relatedUnit (products relations a b) = .error f.kind := by
  unfold multiplyDimensions at h
  split at h
  · exact nomatch h
  · unfold relatedUnit
    split
    · simp_all
    · rw [← Except.error.inj h, Fault.kind]

lemma relatedUnit_cofactors {n d : Dimension} {f : Fault α}
    (h : divideDimensions relations n d = .error f) :
    relatedUnit (cofactors relations n d) = .error f.kind := by
  unfold divideDimensions at h
  split at h
  · exact nomatch h
  · unfold relatedUnit
    split
    · simp_all
    · rw [← Except.error.inj h, Fault.kind]

lemma isSome_scaledUnit {found : Dimension → Dimension → List Dimension}
    {u v w : Option MeasureUnit} (h : scaledUnit found u v = .ok w) :
    w.isSome = (u.isSome || v.isSome) := by
  unfold scaledUnit relatedUnit at h
  split at h
  · exact Except.ok.inj h ▸ rfl
  · split at h
    · exact Except.ok.inj h ▸ rfl
    · exact nomatch h
  · exact Except.ok.inj h ▸ rfl
  · exact Except.ok.inj h ▸ rfl

lemma isSome_combinedUnit {u v w : Option MeasureUnit} (h : combinedUnit u v = .ok w) :
    w.isSome = (u.isSome || v.isSome) := by
  unfold combinedUnit at h
  split at h
  · exact Except.ok.inj h ▸ rfl
  · split at h
    · exact Except.ok.inj h ▸ rfl
    · exact nomatch h
  · exact nomatch h

lemma isSome_resultUnit {symbol : Symbol} {u v w : Option MeasureUnit}
    (h : resultUnit symbol u v = .ok w) : w.isSome = (u.isSome || v.isSome) := by
  cases symbol with
  | plus => exact isSome_combinedUnit h
  | minus => exact isSome_combinedUnit h
  | times => exact isSome_scaledUnit h
  | slash => exact isSome_scaledUnit h

lemma combinedUnit_error {u v : Option MeasureUnit} {k : FaultKind}
    (h : combinedUnit u v = .error k) : k ∈ decidedByUnits := by
  unfold combinedUnit at h
  split at h
  · exact nomatch h
  · split at h
    · exact nomatch h
    · exact Except.error.inj h ▸ by decide
  · exact Except.error.inj h ▸ by decide

lemma scaledUnit_error {found : Dimension → Dimension → List Dimension}
    {u v : Option MeasureUnit} {k : FaultKind} (h : scaledUnit found u v = .error k) :
    k ∈ decidedByUnits := by
  unfold scaledUnit relatedUnit at h
  split at h
  · exact nomatch h
  · split at h
    · exact nomatch h
    · exact Except.error.inj h ▸ by decide
  · exact nomatch h
  · exact nomatch h

lemma resultUnit_error {symbol : Symbol} {u v : Option MeasureUnit} {k : FaultKind}
    (h : resultUnit symbol u v = .error k) : k ∈ decidedByUnits := by
  cases symbol with
  | plus => exact combinedUnit_error h
  | minus => exact combinedUnit_error h
  | times => exact scaledUnit_error h
  | slash => exact scaledUnit_error h

lemma scaledUnit_ne_fahrenheit {found : Dimension → Dimension → List Dimension}
    {u v w : Option MeasureUnit} (h : scaledUnit found u v = .ok w)
    (hu : u ≠ some .fahrenheit) (hv : v ≠ some .fahrenheit) : w ≠ some .fahrenheit := by
  unfold scaledUnit relatedUnit at h
  split at h
  · exact Except.ok.inj h ▸ nofun
  · split at h
    · rw [← Except.ok.inj h]
      exact fun hw => baseUnit_ne_fahrenheit _ (Option.some.inj hw)
    · exact nomatch h
  · exact Except.ok.inj h ▸ hu
  · exact Except.ok.inj h ▸ hv

end Standard

lemma value_eq_of_eq_ok {s : Except (Fault α) (Quantity α)} {x y : α} {u v : MeasureUnit}
    (h : s = .ok ⟨x, u⟩) (h' : s = .ok ⟨y, v⟩) : x = y :=
  congrArg Quantity.value (Except.ok.inj (h.symm.trans h'))

lemma isNumeric_of_liftM {β : Type} {s : Except ArithmeticFault β} {f : Fault α}
    (hs : ∀ g, s = .error g → g.kind.isNumeric) (h : (liftM s : Except (Fault α) β) = .error f) :
    f.kind.isNumeric := by
  obtain ⟨g, hg, rfl⟩ := liftM_eq_error_iff.mp h
  exact hs g hg

variable [Scalar α]

section Conversions

/-- Every unit of the standard table has a factor, but for Fahrenheit. -/
lemma exists_factor {u : MeasureUnit} (h : u ≠ .fahrenheit) :
    ∃ a : α, (entry u).conversion = .scalar a := by
  cases u <;> first | exact ⟨_, rfl⟩ | contradiction

lemma convert_of_ne {q : Quantity α} {u : MeasureUnit} (h : dimension q.unit ≠ dimension u) :
    q.convert units u = .error (mismatch q.unit u) := by
  simp [Quantity.convert, h, mismatch]

lemma convert_self (q : Quantity α) : q.convert units q.unit = .ok q := by
  simp [Quantity.convert]

lemma convert_of_eq {q : Quantity α} {u : MeasureUnit} (h : dimension q.unit = dimension u)
    (hne : u ≠ q.unit) :
    q.convert units u = (do
      let base ← (entry q.unit).conversion.toBase q.value
      let value ← (entry u).conversion.fromBase base
      return ⟨Scalar.roundPlaces convertedPlaces value, u⟩) := by
  simp [Quantity.convert, h, hne]

/-- A converted quantity is in the unit asked for, which has the dimension of the old one. -/
lemma convert_eq_ok {q r : Quantity α} {u : MeasureUnit} (h : q.convert units u = .ok r) :
    r.unit = u ∧ dimension q.unit = dimension u := by
  by_cases hd : dimension q.unit = dimension u
  · refine ⟨?_, hd⟩
    by_cases hu : u = q.unit
    · subst hu
      rw [convert_self] at h
      exact (Except.ok.inj h) ▸ rfl
    · rw [convert_of_eq hd hu] at h
      obtain ⟨x, -, h⟩ := bind_eq_ok_iff.mp h
      obtain ⟨y, -, h⟩ := bind_eq_ok_iff.mp h
      exact (Except.ok.inj h) ▸ rfl
  · rw [convert_of_ne hd] at h
    exact nomatch h

variable [Scalar.FailsNumerically α]

lemma toBase_error {u : MeasureUnit} {x : α} {g : ArithmeticFault}
    (h : (entry u).conversion.toBase x = .error g) : g.kind.isNumeric := by
  by_cases hu : u = .fahrenheit
  · subst hu
    rcases bind_eq_error_iff.mp h with h | ⟨y, -, h⟩
    · exact Scalar.FailsNumerically.sub_error h
    · exact Scalar.FailsNumerically.mul_error h
  · obtain ⟨a, ha⟩ := exists_factor (α := α) hu
    rw [ha] at h
    exact Scalar.FailsNumerically.mul_error h

lemma fromBase_error {u : MeasureUnit} {x : α} {g : ArithmeticFault}
    (h : (entry u).conversion.fromBase x = .error g) : g.kind.isNumeric := by
  by_cases hu : u = .fahrenheit
  · subst hu
    rcases bind_eq_error_iff.mp h with h | ⟨y, -, h⟩
    · exact Scalar.FailsNumerically.mul_error h
    · exact Scalar.FailsNumerically.add_error h
  · obtain ⟨a, ha⟩ := exists_factor (α := α) hu
    rw [ha] at h
    exact Scalar.FailsNumerically.div_error h

/-- A conversion fails for different dimensions or numerically. -/
lemma convert_eq_error {q : Quantity α} {u : MeasureUnit} {f : Fault α}
    (h : q.convert units u = .error f) :
    (dimension q.unit ≠ dimension u ∧ f = mismatch q.unit u) ∨ f.kind.isNumeric := by
  by_cases hd : dimension q.unit = dimension u
  · right
    by_cases hu : u = q.unit
    · subst hu
      rw [convert_self] at h
      exact nomatch h
    · rw [convert_of_eq hd hu] at h
      rcases bind_eq_error_iff.mp h with h | ⟨x, -, h⟩
      · exact isNumeric_of_liftM (fun _ => toBase_error) h
      rcases bind_eq_error_iff.mp h with h | ⟨y, -, h⟩
      · exact isNumeric_of_liftM (fun _ => fromBase_error) h
      · exact nomatch h
  · left
    rw [convert_of_ne hd] at h
    exact ⟨hd, (Except.error.inj h).symm⟩

end Conversions

namespace Operand

section Sums

variable {op : α → α → Except ArithmeticFault α} {symbol : Symbol} {a b r : Operand α}

lemma combine_quantities (t : Tables α) (p q : Quantity α) :
    combine t symbol op (quantity p) (quantity q) =
      if p.unit = q.unit then do
        let z ← op p.value q.value
        return quantity ⟨z, p.unit⟩
      else do
        let q ← q.convert t.units p.unit
        let z ← op p.value q.value
        return quantity ⟨z, p.unit⟩ := rfl

lemma combine_quantities_eq_ok {p q : Quantity α}
    (h : combine tables symbol op (quantity p) (quantity q) = .ok r) :
    dimension p.unit = dimension q.unit ∧ r.unit? = some p.unit := by
  rw [combine_quantities] at h
  split at h
  next hu =>
    obtain ⟨z, -, h⟩ := bind_eq_ok_iff.mp h
    exact ⟨by rw [hu], Except.ok.inj h ▸ rfl⟩
  next =>
    obtain ⟨s, hs, h⟩ := bind_eq_ok_iff.mp h
    obtain ⟨z, -, h⟩ := bind_eq_ok_iff.mp h
    exact ⟨(convert_eq_ok hs).2.symm, Except.ok.inj h ▸ rfl⟩

lemma combine_eq_ok (h : combine tables symbol op a b = .ok r) :
    combinedUnit a.unit? b.unit? = .ok r.unit? := by
  cases a with
  | number x =>
    cases b with
    | number y =>
      obtain ⟨z, -, h⟩ := bind_eq_ok_iff.mp h
      exact Except.ok.inj h ▸ rfl
    | quantity q => exact nomatch h
  | quantity p =>
    cases b with
    | number y => exact nomatch h
    | quantity q =>
      obtain ⟨hd, hr⟩ := combine_quantities_eq_ok h
      rw [hr]
      exact if_pos hd

variable [Scalar.FailsNumerically α]

lemma combine_eq_error (hop : ∀ {x y g}, op x y = .error g → g.kind.isNumeric) {f : Fault α}
    (h : combine tables symbol op a b = .error f) :
    combinedUnit a.unit? b.unit? = .error f.kind ∨ f.kind.isNumeric := by
  cases a with
  | number x =>
    cases b with
    | number y =>
      rcases bind_eq_error_iff.mp h with h | ⟨z, -, h⟩
      · exact Or.inr (isNumeric_of_liftM (fun _ => hop) h)
      · exact nomatch h
    | quantity q => exact Or.inl (Except.error.inj h ▸ rfl)
  | quantity p =>
    cases b with
    | number y => exact Or.inl (Except.error.inj h ▸ rfl)
    | quantity q =>
      rw [combine_quantities] at h
      split at h
      next hu =>
        rcases bind_eq_error_iff.mp h with h | ⟨z, -, h⟩
        · exact Or.inr (isNumeric_of_liftM (fun _ => hop) h)
        · exact nomatch h
      next =>
        rcases bind_eq_error_iff.mp h with h | ⟨s, -, h⟩
        · rcases convert_eq_error h with ⟨hd, rfl⟩ | hf
          · exact Or.inl (if_neg (Ne.symm hd))
          · exact Or.inr hf
        rcases bind_eq_error_iff.mp h with h | ⟨z, -, h⟩
        · exact Or.inr (isNumeric_of_liftM (fun _ => hop) h)
        · exact nomatch h

end Sums

section Products

variable [FindsBases α] {op : α → α → Except ArithmeticFault α} {symbol : Symbol}
  {dim : Dimension → Dimension → Except (Fault α) Dimension}
  {found : Dimension → Dimension → List Dimension} {a b r : Operand α}

/-- Two quantities are scaled by their values in base units, once the dimensions are related. -/
lemma scale_quantities (p q : Quantity α) :
    scale tables op dim symbol (quantity p) (quantity q) = (do
      let d ← dim (dimension p.unit) (dimension q.unit)
      let x ← (entry p.unit).conversion.toBase p.value
      let y ← (entry q.unit).conversion.toBase q.value
      let z ← op x y
      return quantity ⟨z, baseUnit d⟩) := by
  simp [scale]

lemma scale_quantities_eq_ok {p q : Quantity α}
    (h : scale tables op dim symbol (quantity p) (quantity q) = .ok r) :
    ∃ d, dim (dimension p.unit) (dimension q.unit) = .ok d ∧ r.unit? = some (baseUnit d) := by
  rw [scale_quantities] at h
  obtain ⟨d, hd, h⟩ := bind_eq_ok_iff.mp h
  obtain ⟨x, -, h⟩ := bind_eq_ok_iff.mp h
  obtain ⟨y, -, h⟩ := bind_eq_ok_iff.mp h
  obtain ⟨z, -, h⟩ := bind_eq_ok_iff.mp h
  exact ⟨d, hd, Except.ok.inj h ▸ rfl⟩

lemma scale_eq_ok (hdim : ∀ {d e c}, dim d e = .ok c → found d e = [c])
    (h : scale tables op dim symbol a b = .ok r) :
    scaledUnit found a.unit? b.unit? = .ok r.unit? := by
  cases a with
  | number x =>
    cases b <;>
    · obtain ⟨z, -, h⟩ := bind_eq_ok_iff.mp h
      exact Except.ok.inj h ▸ rfl
  | quantity p =>
    cases b with
    | number y =>
      obtain ⟨z, -, h⟩ := bind_eq_ok_iff.mp h
      exact Except.ok.inj h ▸ rfl
    | quantity q =>
      obtain ⟨d, hd, hr⟩ := scale_quantities_eq_ok h
      simp only [unit?, scaledUnit, hdim hd, relatedUnit] at hr ⊢
      rw [hr]

variable [Scalar.FailsNumerically α]

lemma scale_eq_error (hop : ∀ {x y g}, op x y = .error g → g.kind.isNumeric)
    (hdim : ∀ {d e f}, dim d e = .error f → relatedUnit (found d e) = .error f.kind) {f : Fault α}
    (h : scale tables op dim symbol a b = .error f) :
    scaledUnit found a.unit? b.unit? = .error f.kind ∨ f.kind.isNumeric := by
  cases a with
  | number x =>
    cases b <;>
    · rcases bind_eq_error_iff.mp h with h | ⟨z, -, h⟩
      · exact Or.inr (isNumeric_of_liftM (fun _ => hop) h)
      · exact nomatch h
  | quantity p =>
    cases b with
    | number y =>
      rcases bind_eq_error_iff.mp h with h | ⟨z, -, h⟩
      · exact Or.inr (isNumeric_of_liftM (fun _ => hop) h)
      · exact nomatch h
    | quantity q =>
      rw [scale_quantities] at h
      rcases bind_eq_error_iff.mp h with h | ⟨d, hd, h⟩
      · exact Or.inl (hdim h)
      rcases bind_eq_error_iff.mp h with h | ⟨x, -, h⟩
      · exact Or.inr (isNumeric_of_liftM (fun _ => toBase_error) h)
      rcases bind_eq_error_iff.mp h with h | ⟨y, -, h⟩
      · exact Or.inr (isNumeric_of_liftM (fun _ => toBase_error) h)
      rcases bind_eq_error_iff.mp h with h | ⟨z, -, h⟩
      · exact Or.inr (isNumeric_of_liftM (fun _ => hop) h)
      · exact nomatch h

end Products

section Operations

variable [FindsBases α] {symbol : Symbol} {a b r : Operand α}

/-- The unit of a result is the one found from the units of the operands. -/
theorem apply_eq_ok (h : apply tables symbol a b = .ok r) :
    resultUnit symbol a.unit? b.unit? = .ok r.unit? := by
  cases symbol with
  | plus => exact combine_eq_ok h
  | minus => exact combine_eq_ok h
  | times => exact scale_eq_ok multiplyDimensions_eq_ok_iff.mp h
  | slash => exact scale_eq_ok divideDimensions_eq_ok_iff.mp h

lemma unit?_multiply (h : multiply tables a b = .ok r) :
    resultUnit .times a.unit? b.unit? = .ok r.unit? := by
  have h : apply tables .times a b = .ok r := h
  exact apply_eq_ok h

lemma unit?_divide (h : divide tables a b = .ok r) :
    resultUnit .slash a.unit? b.unit? = .ok r.unit? := by
  have h : apply tables .slash a b = .ok r := h
  exact apply_eq_ok h

/-- An operation fails as found from the units of the operands, or numerically. -/
theorem apply_eq_error [Scalar.FailsNumerically α] {f : Fault α}
    (h : apply tables symbol a b = .error f) :
    resultUnit symbol a.unit? b.unit? = .error f.kind ∨ f.kind.isNumeric := by
  cases symbol with
  | plus => exact combine_eq_error Scalar.FailsNumerically.add_error h
  | minus => exact combine_eq_error Scalar.FailsNumerically.sub_error h
  | times =>
    change multiply tables a b = _ at h
    rw [multiply, relations_tables] at h
    exact scale_eq_error Scalar.FailsNumerically.mul_error relatedUnit_products h
  | slash =>
    change divide tables a b = _ at h
    rw [divide, relations_tables] at h
    exact scale_eq_error Scalar.FailsNumerically.div_error relatedUnit_cofactors h

end Operations

end Operand

end FlightUnits
