import FlightUnits.Proofs.CalculationTree
import FlightUnits.Proofs.RequestIssues

/-!
# Reading records field by field

A record is read when each of its fields is read, and to what the fields come; an issue of a field
is an issue of the record. Both are stated for records of any further fields, of which only the
fields that are read are known.
-/

namespace FlightUnits

namespace Checked

variable {β γ : Type} {part : Json} {c : Checked β} {x : β}

lemma inside_eq_ok_iff {name : String} : c.inside name = .ok x ↔ c = .ok x := mapError_eq_ok_iff

lemma both_bind_eq_ok_iff {d : Checked γ} {δ : Type} {f : β × γ → δ} {z : δ} :
    (both c d >>= fun p => pure (f p)) = .ok z ↔ ∃ x y, c = .ok x ∧ d = .ok y ∧ f (x, y) = z := by
  rw [bind_eq_ok_iff]
  constructor
  · rintro ⟨⟨x, y⟩, hboth, hz⟩
    obtain ⟨hc, hd⟩ := both_eq_ok.mp hboth
    exact ⟨x, y, hc, hd, Except.ok.inj hz⟩
  · rintro ⟨x, y, hc, hd, rfl⟩
    exact ⟨(x, y), both_eq_ok.mpr ⟨hc, hd⟩, rfl⟩

/-- An issue is about the data `part`. -/
def Repeats (part : Json) (c : Checked β) : Prop :=
  ∃ issues, c = .error issues ∧ ∃ issue ∈ issues, issue.data = part

lemma repeats_refuse (kind : IssueKind) : Repeats part (refuse kind part : Checked β) :=
  ⟨_, rfl, _, List.mem_singleton_self _, rfl⟩

lemma Repeats.inside (h : c.Repeats part) (name : String) : (c.inside name).Repeats part := by
  obtain ⟨issues, rfl, issue, hissue, hdata⟩ := h
  exact ⟨_, rfl, _, List.mem_map_of_mem hissue, hdata⟩

lemma Repeats.map (h : c.Repeats part) (f : β → γ) : Repeats part (c.map f) := by
  obtain ⟨issues, rfl, hissues⟩ := h
  exact ⟨issues, rfl, hissues⟩

lemma Repeats.bind (h : c.Repeats part) (f : β → Checked γ) : Repeats part (c >>= f) := by
  obtain ⟨issues, rfl, hissues⟩ := h
  exact ⟨issues, rfl, hissues⟩

lemma Repeats.both_left (h : c.Repeats part) (d : Checked γ) : (both c d).Repeats part := by
  obtain ⟨issues, rfl, issue, hissue, hdata⟩ := h
  cases d with
  | ok y => exact ⟨_, rfl, issue, hissue, hdata⟩
  | error others => exact ⟨_, rfl, issue, List.mem_append_left others hissue, hdata⟩

lemma Repeats.both_right {d : Checked γ} (h : d.Repeats part) (c : Checked β) :
    (both c d).Repeats part := by
  obtain ⟨issues, rfl, issue, hissue, hdata⟩ := h
  cases c with
  | ok x => exact ⟨_, rfl, issue, hissue, hdata⟩
  | error others => exact ⟨_, rfl, issue, List.mem_append_right others hissue, hdata⟩

end Checked

namespace Request

open Checked

section Fields

variable {β : Type} {read : Json → Checked β} {record data part : Json} {name : String} {x : β}
  (h : record.field? name = some data)

include h

lemma field_of_some : field record name read = Checked.inside name (read data) := by
  rw [field, h]

lemma field_eq_ok_iff : field record name read = .ok x ↔ read data = .ok x := by
  rw [field_of_some h, inside_eq_ok_iff]

lemma repeats_field (hread : (read data).Repeats part) : (field record name read).Repeats part := by
  rw [field_of_some h]
  exact hread.inside name

lemma optionalField_of_some (hnull : data ≠ .null) :
    optionalField record name read = Checked.inside name ((read data).map some) := by
  rw [optionalField.eq_def, h]
  cases data <;> first | rfl | exact absurd rfl hnull

omit h in
lemma optionalField_of_none (h : record.field? name = none ∨ record.field? name = some .null) :
    optionalField record name read = .ok none := by
  rcases h with h | h <;> rw [optionalField.eq_def, h]

/-- What has a field is a record. -/
lemma object_of_field? : object record = .ok record := by
  cases record with
  | object fields => rfl
  | _ => exact nomatch h

end Fields

section Members

variable {β : Type} {ofId? : String → Option β} {s : String} {x : β}

lemma member_text_eq_ok_iff : member ofId? (.text s) = .ok x ↔ ofId? s = some x := by
  rw [member]
  cases ofId? s with
  | none => exact iff_of_false (by rintro ⟨⟩) (by rintro ⟨⟩)
  | some y => rw [Except.ok.injEq, Option.some.injEq]

lemma repeats_member (h : ofId? s = none) : (member ofId? (.text s)).Repeats (.text s) := by
  rw [member, h]
  exact repeats_refuse _

end Members

section Quantities

variable {record value unit part : Json} (hvalue : record.field? "value" = some value)
  (hunit : record.field? "unit" = some unit)

include hvalue hunit

lemma quantity_eq_ok_iff {q : Quantity Binary64} :
    quantity record = .ok q ↔
      real value = .ok q.value ∧ member MeasureUnit.ofId? unit = .ok q.unit := by
  rw [quantity, object_of_field? hvalue, ok_bind]
  refine both_bind_eq_ok_iff.trans ?_
  simp only [field_eq_ok_iff hvalue, field_eq_ok_iff hunit]
  constructor
  · rintro ⟨x, u, hx, hu, rfl⟩
    exact ⟨hx, hu⟩
  · rintro ⟨hx, hu⟩
    exact ⟨q.value, q.unit, hx, hu, rfl⟩

lemma repeats_quantity (h : (member MeasureUnit.ofId? unit).Repeats part) :
    (quantity record).Repeats part := by
  rw [quantity, object_of_field? hvalue, ok_bind]
  exact ((repeats_field hunit h).both_right _).bind _

end Quantities

section Records

variable {record part : Json}

section Conversion

variable {source target : Json} (hsource : record.field? "quantity" = some source)
  (htarget : record.field? "to_unit" = some target)

include hsource htarget

lemma conversion_eq_ok_iff {request : ConvertRequest} :
    conversion record = .ok request ↔
      quantity source = .ok request.quantity ∧
        member MeasureUnit.ofId? target = .ok request.target := by
  rw [conversion, object_of_field? hsource, ok_bind]
  refine both_bind_eq_ok_iff.trans ?_
  simp only [field_eq_ok_iff hsource, field_eq_ok_iff htarget]
  constructor
  · rintro ⟨q, u, hq, hu, rfl⟩
    exact ⟨hq, hu⟩
  · rintro ⟨hq, hu⟩
    exact ⟨_, _, hq, hu, rfl⟩

lemma repeats_conversion (h : (quantity source).Repeats part ∨
    (member MeasureUnit.ofId? target).Repeats part) : (conversion record).Repeats part := by
  rw [conversion, object_of_field? hsource, ok_bind]
  rcases h with h | h
  · exact ((repeats_field hsource h).both_left _).bind _
  · exact ((repeats_field htarget h).both_right _).bind _

end Conversion

section Calculation

variable {o : Operation} {left : Json} (ho : record.field? "operation" = some (.text o.id))
  (hleft : record.field? "a" = some left)

include ho hleft

lemma calculation_eq_ok_iff {request : CalculationRequest} :
    calculation record = .ok request ↔
      ∃ a b, operand left = .ok a ∧ optionalField record "b" operand = .ok b ∧
        arrange? o a b = some request := by
  have hoperation : field record "operation" (member Operation.ofId?) = .ok o :=
    field_eq_ok ho (member_id o)
  rw [calculation, object_of_field? ho, ok_bind, hoperation, bind_eq_ok_iff]
  constructor
  · rintro ⟨⟨o', a, b⟩, hfields, hrequest⟩
    obtain ⟨ho', hoperands⟩ := both_eq_ok.mp hfields
    obtain ⟨ha, hb⟩ := both_eq_ok.mp hoperands
    obtain rfl := Except.ok.inj ho'
    refine ⟨a, b, (field_eq_ok_iff hleft).mp ha, hb, ?_⟩
    dsimp only at hrequest
    split at hrequest
    · next r harrange => rw [harrange, Except.ok.inj hrequest]
    · cases hrequest
  · rintro ⟨a, b, ha, hb, harrange⟩
    have hfields := both_eq_ok.mpr ⟨(field_eq_ok_iff hleft).mpr ha, hb⟩
    refine ⟨(o, a, b), both_eq_ok.mpr ⟨rfl, hfields⟩, ?_⟩
    simp only [harrange, pure_eq_ok]

lemma repeats_calculation (h : (operand left).Repeats part ∨
    (optionalField record "b" operand).Repeats part) : (calculation record).Repeats part := by
  rw [calculation, object_of_field? ho, ok_bind]
  rcases h with h | h
  · exact (((repeats_field hleft h).both_left _).both_right _).bind _
  · exact ((h.both_right _).both_right _).bind _

end Calculation

section DynamicPressure

variable {velocity : Json} (hvelocity : record.field? "velocity" = some velocity)

include hvelocity

lemma dynamicPressure_eq_ok_iff {request : DynamicPressureRequest} :
    dynamicPressure record = .ok request ↔
      quantity velocity = .ok request.velocity ∧
        optionalField record "altitude" quantity = .ok request.altitude := by
  rw [dynamicPressure, object_of_field? hvelocity, ok_bind]
  refine both_bind_eq_ok_iff.trans ?_
  simp only [field_eq_ok_iff hvelocity]
  constructor
  · rintro ⟨q, a, hq, ha, rfl⟩
    exact ⟨hq, ha⟩
  · rintro ⟨hq, ha⟩
    exact ⟨_, _, hq, ha, rfl⟩

lemma repeats_dynamicPressure (h : (quantity velocity).Repeats part ∨
    (optionalField record "altitude" quantity).Repeats part) :
    (dynamicPressure record).Repeats part := by
  rw [dynamicPressure, object_of_field? hvelocity, ok_bind]
  rcases h with h | h
  · exact ((repeats_field hvelocity h).both_left _).bind _
  · exact (h.both_right _).bind _

end DynamicPressure

end Records

end Request

end FlightUnits
