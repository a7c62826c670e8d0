import FlightUnits.CommandLine.Run
import FlightUnits.Proofs.PlainMessages
import FlightUnits.Proofs.RecordReading

/-!
# Posted data

The words of a task and the data of a request can name the same numbers and the same units. Here is
what data the parts of a task are posted as, what it is read to, and when it can be written: it
holds finite numbers only, so that nothing but a surrogate in the name of a unit is in the way.
-/

namespace FlightUnits

open CommandLine Text

/-! ### Posted data -/

section Posted

/-- Data that is read as a finite double. -/
def Json.StandsFor (number : Json) (x : Binary64) : Prop :=
  Request.real number = .ok x ∧ x.isFinite

/-- The data of a value and the identifier of a unit. -/
def Json.ofQuantity (number : Json) (unit : String) : Json :=
  .object [("value", number), ("unit", .text unit)]

/-- A field that is left out or null, or holds posted data. -/
inductive OptionalField {β : Type} (name : String) (posted : β → Json → Prop) :
    Option β → List (String × Json) → Prop where
  | missing : OptionalField name posted none []
  | null : OptionalField name posted none [(name, .null)]
  | given {x : β} {data : Json} (h : posted x data) :
    OptionalField name posted (some x) [(name, data)]

/-- The data of an operand as it is written on the command line. -/
inductive CommandLine.WrittenOperand.IsPostedAs : WrittenOperand → Json → Prop where
  | number {x : Binary64} {number : Json} (h : number.StandsFor x) :
    IsPostedAs (.number x) number
  | tagged {x : Binary64} {unit : String} {number : Json} (h : number.StandsFor x) :
    IsPostedAs (.tagged x unit) (.ofQuantity number unit)

lemma CommandLine.WrittenOperand.IsPostedAs.ne_null {a : WrittenOperand} {data : Json}
    (h : a.IsPostedAs data) : data ≠ .null := by
  cases h with
  | number h =>
    rintro rfl
    exact nomatch h.1
  | tagged => exact nofun

/-- The data of an altitude whose value is written as a text. -/
inductive IsPostedAltitude : String × String → Json → Prop where
  | mk {value unit : String} {x : Binary64} {number : Json}
    (hvalue : Binary64.ofText? value = some x) (hnumber : number.StandsFor x) :
    IsPostedAltitude (value, unit) (.ofQuantity number unit)

/-- The path to which a task that prints JSON is posted, and its data. -/
inductive CommandLine.Task.IsPostedAs : Task → String → Json → Prop where
  | convert {x : Binary64} {unit target : String} {number : Json} (h : number.StandsFor x) :
    IsPostedAs (.convert ⟨x, some unit, some target, true⟩) "/convert"
      (.object [("quantity", .ofQuantity number unit), ("to_unit", .text target)])
  | calculate {operation : Operation} {a : WrittenOperand} {b : Option WrittenOperand} {left : Json}
    {rest : List (String × Json)} (ha : a.IsPostedAs left)
    (hb : OptionalField "b" WrittenOperand.IsPostedAs b rest) :
    IsPostedAs (.calculate ⟨operation, some a, b, true⟩) "/calculate"
      (.object (("operation", .text operation.id) :: ("a", left) :: rest))
  | dynamicPressure {x : Binary64} {unit : String} {altitude : Option (String × String)}
    {number : Json} {rest : List (String × Json)} (h : number.StandsFor x)
    (haltitude : OptionalField "altitude" IsPostedAltitude altitude rest) :
    IsPostedAs (.dynamicPressure ⟨x, some unit, altitude, true⟩) "/aero/dynamic-pressure"
      (.object (("velocity", .ofQuantity number unit) :: rest))

/-- The word for the unit of an operand. -/
def CommandLine.WrittenOperand.unit? : WrittenOperand → Option String
  | number _ => none
  | tagged _ unit => some unit

/-- The words of a task for units. -/
def CommandLine.Task.unitWords : Task → List String
  | .convert s => s.unit.toList ++ s.target.toList
  | .calculate s =>
    (s.left.bind WrittenOperand.unit?).toList ++ (s.right.bind WrittenOperand.unit?).toList
  | .dynamicPressure s => s.unit.toList ++ (s.altitude.map Prod.snd).toList
  | .units _ | .serve _ => []

end Posted

/-! ### Texts that can be written -/

namespace Json

lemma isWritable_text {s : String} : (Json.text s).IsWritable ↔ IsPlain s := by
  simp [IsWritable, holds, isNonFinite, hasSurrogate, IsPlain]

lemma field?_singleton {name : String} {data : Json} :
    (Json.object [(name, data)]).field? name = some data := by
  simp [field?, fieldOf?]

lemma not_fieldsHold_iff {fields : List (String × Json)} {p : Json → Bool} :
    ¬ fieldsHold p fields ↔ ∀ field ∈ fields, ¬ p (.text field.1) ∧ ¬ field.2.holds p := by
  induction fields with
  | nil => exact iff_of_true Bool.false_ne_true fun _ h => absurd h List.not_mem_nil
  | cons field fields ih =>
    rw [fieldsHold, List.forall_mem_cons, ← ih]
    simp only [Bool.or_eq_true, not_or, and_assoc]

/-- Fields with plain names and writable data. -/
def FieldsWritable (fields : List (String × Json)) : Prop :=
  ∀ field ∈ fields, IsPlain field.1 ∧ field.2.IsWritable

lemma fieldsWritable_nil : FieldsWritable [] := fun _ h => absurd h List.not_mem_nil

lemma FieldsWritable.cons {fields : List (String × Json)} (h : FieldsWritable fields)
    {name : String} (hname : IsPlain name) {data : Json} (hdata : data.IsWritable) :
    FieldsWritable ((name, data) :: fields) :=
  List.forall_mem_cons.mpr ⟨⟨hname, hdata⟩, h⟩

lemma isWritable_object {fields : List (String × Json)} :
    (Json.object fields).IsWritable ↔ FieldsWritable fields := by
  have hfinite : (Json.object fields).holds isNonFinite = fieldsHold isNonFinite fields := rfl
  have hplain : (Json.object fields).holds hasSurrogate = fieldsHold hasSurrogate fields := rfl
  rw [IsWritable, hfinite, hplain, not_fieldsHold_iff, not_fieldsHold_iff]
  constructor
  · rintro ⟨hfinite, hplain⟩ field hfield
    exact ⟨(hplain field hfield).1, (hfinite field hfield).2, (hplain field hfield).2⟩
  · intro h
    exact ⟨fun field hfield => ⟨Bool.false_ne_true, (h field hfield).2.1⟩,
      fun field hfield => ⟨(h field hfield).1, (h field hfield).2.2⟩⟩

lemma StandsFor.isWritable {number : Json} {x : Binary64} (h : number.StandsFor x) :
    number.IsWritable := by
  obtain ⟨hreal, hfinite⟩ := h
  cases number with
  | null | array items | object fields => exact nomatch hreal
  | truth b => exact ⟨Bool.false_ne_true, Bool.false_ne_true⟩
  | int n => exact ⟨Bool.false_ne_true, Bool.false_ne_true⟩
  | real y =>
    obtain rfl := Except.ok.inj hreal
    have hnumeral : (Json.real y).holds isNonFinite = false := congrArg Bool.not hfinite
    exact ⟨Bool.not_eq_true _ |>.mpr hnumeral, Bool.false_ne_true⟩
  | text s =>
    refine isWritable_text.mpr fun h => ?_
    rw [Request.real, if_pos h] at hreal
    exact nomatch hreal

lemma isWritable_ofQuantity {number : Json} {x : Binary64} (h : number.StandsFor x)
    {unit : String} : (Json.ofQuantity number unit).IsWritable ↔ IsPlain unit := by
  have hvalue : IsPlain "value" := by decide
  have hunit : IsPlain "unit" := by decide
  rw [ofQuantity, isWritable_object]
  constructor
  · intro hfields
    exact isWritable_text.mp (hfields _ (List.mem_cons_of_mem _ List.mem_cons_self)).2
  · intro hplain
    exact (fieldsWritable_nil.cons hunit (isWritable_text.mpr hplain)).cons hvalue h.isWritable

end Json

lemma MeasureUnit.isPlain_of_ofId? {s : String} {u : MeasureUnit} (h : ofId? s = some u) :
    IsPlain s := by
  have hid : (u.id == s) = true := List.find?_some (p := fun u : MeasureUnit => u.id == s) h
  exact beq_iff_eq.mp hid ▸ u.isPlain_id

/-! ### Reading posted data -/

section Reading

/-- The quantity that a value and the identifier of a unit stand for. -/
def Quantity.ofWord? (x : Binary64) (unit : String) : Option (Quantity Binary64) :=
  (MeasureUnit.ofId? unit).map fun u => ⟨x, u⟩

/-- The operand that is written. -/
def CommandLine.WrittenOperand.operand? : WrittenOperand → Option (Operand Binary64)
  | number x => some (.number x)
  | tagged x unit => (Quantity.ofWord? x unit).map .quantity

/-- The altitude that is written. -/
def altitudeOfWords? (words : String × String) : Option (Quantity Binary64) :=
  (Binary64.ofText? words.1).bind fun x => Quantity.ofWord? x words.2

/-- What is meant by something that may be missing. -/
def optionally {β γ : Type} (means : β → Option γ) : Option β → Option (Option γ)
  | none => some none
  | some x => (means x).map some

variable {x : Binary64} {unit : String} {number data : Json}

lemma Quantity.ofWord?_eq_some_iff {q : Quantity Binary64} :
    ofWord? x unit = some q ↔ x = q.value ∧ MeasureUnit.ofId? unit = some q.unit := by
  rw [ofWord?, Option.map_eq_some_iff]
  constructor
  · rintro ⟨u, hu, rfl⟩
    exact ⟨rfl, hu⟩
  · rintro ⟨rfl, hu⟩
    exact ⟨q.unit, hu, rfl⟩

namespace Request

open Checked

lemma quantity_ofQuantity_eq_ok_iff (h : real number = .ok x) {q : Quantity Binary64} :
    quantity (.ofQuantity number unit) = .ok q ↔ Quantity.ofWord? x unit = some q := by
  rw [quantity_eq_ok_iff rfl rfl, h, member_text_eq_ok_iff, Except.ok.injEq,
    Quantity.ofWord?_eq_some_iff]

lemma repeats_ofQuantity (number : Json) (h : MeasureUnit.ofId? unit = none) :
    (quantity (.ofQuantity number unit)).Repeats (.text unit) := by
  have hvalue : (Json.ofQuantity number unit).field? "value" = some number := rfl
  exact repeats_quantity hvalue rfl (repeats_member h)

lemma real_ofQuantity : real (.ofQuantity number unit) =
    refuse .notANumber (.ofQuantity number unit) := rfl

lemma operand_eq_ok_iff {a : WrittenOperand} (h : a.IsPostedAs data) {y : Operand Binary64} :
    operand data = .ok y ↔ a.operand? = some y := by
  cases h with
  | @number x _ h =>
    have hread : operand data = .ok (.number x) := by rw [operand, h.1]
    rw [hread, Except.ok.injEq, WrittenOperand.operand?, Option.some.injEq]
  | @tagged x unit number h =>
    have hquantity (q : Quantity Binary64) : quantity (.ofQuantity number unit) = .ok q ↔
        Quantity.ofWord? x unit = some q := quantity_ofQuantity_eq_ok_iff h.1
    rw [operand, real_ofQuantity, WrittenOperand.operand?]
    rcases hq : quantity (.ofQuantity number unit) with issues | q
    · refine iff_of_false (by rintro ⟨⟩) fun hy => ?_
      obtain ⟨q, hword, -⟩ := Option.map_eq_some_iff.mp hy
      cases hq.symm.trans ((hquantity q).mpr hword)
    · rw [(hquantity q).mp hq, Option.map_some, Option.some.injEq]
      exact ⟨Except.ok.inj, congrArg Except.ok⟩

lemma repeats_operand (h : MeasureUnit.ofId? unit = none) :
    (operand (.ofQuantity number unit)).Repeats (.text unit) := by
  obtain ⟨issues, hissues, issue, hissue, hdata⟩ := repeats_ofQuantity number h
  have hoperand : operand (.ofQuantity number unit) =
      .error (operandIssues [⟨.notANumber, [], .ofQuantity number unit⟩] issues) := by
    rw [operand, real_ofQuantity, hissues]
    rfl
  refine ⟨_, hoperand, issue.inside quantityRecord, ?_, hdata⟩
  exact List.mem_append_right _ (List.mem_map_of_mem hissue)

variable {β γ : Type} {name : String} {posted : β → Json → Prop} {read : Json → Checked γ}
  {y : Option β} {rest : List (String × Json)} (h : OptionalField name posted y rest)
  {record : Json} (hrecord : record.field? name = (Json.object rest).field? name)

include h hrecord

/-- A field that may be missing is read to what its data means, if it has data. -/
lemma optionalField_eq_ok_iff {means : β → Option γ} (hread : ∀ x data, posted x data →
      data ≠ .null ∧ ∀ z, read data = .ok z ↔ means x = some z) {z : Option γ} :
    optionalField record name read = .ok z ↔ optionally means y = some z := by
  cases h with
  | missing =>
    rw [optionalField_of_none (.inl hrecord), optionally, Except.ok.injEq, Option.some.injEq]
  | null =>
    have hnull : record.field? name = some .null := by rw [hrecord, Json.field?_singleton]
    rw [optionalField_of_none (.inr hnull), optionally, Except.ok.injEq, Option.some.injEq]
  | @given x data hx =>
    have hdata : record.field? name = some data := by rw [hrecord, Json.field?_singleton]
    obtain ⟨hne, hmeans⟩ := hread x data hx
    rw [optionalField_of_some hdata hne, inside_eq_ok_iff, optionally, Option.map_eq_some_iff]
    rcases hc : read data with issues | w
    · refine iff_of_false nofun ?_
      rintro ⟨w, hw, -⟩
      exact nomatch hc.symm.trans ((hmeans w).mpr hw)
    · rw [(hmeans w).mp hc]
      simp only [Except.map, Except.ok.injEq, Option.some.injEq, exists_eq_left']

lemma repeats_optionalField {x : β} {part : Json} (hy : y = some x)
    (hread : ∀ data, posted x data → data ≠ .null ∧ (read data).Repeats part) :
    (optionalField record name read).Repeats part := by
  cases h with
  | missing | null => exact nomatch hy
  | @given x data hx =>
    obtain rfl := Option.some.inj hy
    have hdata : record.field? name = some data := by rw [hrecord, Json.field?_singleton]
    obtain ⟨hne, hrepeats⟩ := hread data hx
    rw [optionalField_of_some hdata hne]
    exact (hrepeats.map some).inside name

end Request

end Reading

end FlightUnits
