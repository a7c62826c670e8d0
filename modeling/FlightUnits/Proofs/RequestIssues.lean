import FlightUnits.Proofs.FallibleSteps
import FlightUnits.Request.Basic

/-!
# The data of issues

An issue repeats the data to which it applies, and an answer repeats all issues. So whether an
answer can be written depends on the data alone: everything that an issue holds is held by the data
that was read, for every reader of a record. Writable data has writable issues only.
-/

namespace FlightUnits

namespace Json

/-- A tree holds whatever another tree holds. -/
def Within (part whole : Json) : Prop := ∀ p, part.holds p → whole.holds p

lemma within_refl (tree : Json) : tree.Within tree := fun _ h => h

lemma Within.trans {a b c : Json} (hab : a.Within b) (hbc : b.Within c) : a.Within c :=
  fun p h => hbc p (hab p h)

/-- A tree that an answer can repeat: all numbers have a numeral, and no text has a surrogate. -/
def IsWritable (tree : Json) : Prop := ¬ tree.holds isNonFinite ∧ ¬ tree.holds hasSurrogate

instance (tree : Json) : Decidable tree.IsWritable :=
  inferInstanceAs (Decidable (¬ tree.holds isNonFinite ∧ ¬ tree.holds hasSurrogate))

lemma IsWritable.within {part whole : Json} (h : whole.IsWritable) (hpart : part.Within whole) :
    part.IsWritable :=
  ⟨fun hp => h.1 (hpart _ hp), fun hp => h.2 (hpart _ hp)⟩

lemma fieldsHold_of_mem {fields : List (String × Json)} {field : String × Json}
    (hmem : field ∈ fields) {p : Json → Bool} (h : field.2.holds p) : fieldsHold p fields := by
  induction fields with
  | nil => exact absurd hmem List.not_mem_nil
  | cons first rest ih =>
    rw [fieldsHold, Bool.or_eq_true, Bool.or_eq_true]
    rcases List.mem_cons.mp hmem with rfl | hrest
    · exact .inl (.inr h)
    · exact .inr (ih hrest)

lemma within_of_field? {record data : Json} {name : String} (h : record.field? name = some data) :
    data.Within record := by
  cases record with
  | object fields =>
    obtain ⟨field, hfield, rfl⟩ := Option.map_eq_some_iff.mp h
    have hmem : field ∈ fields := List.mem_reverse.mp (List.mem_of_find?_eq_some hfield)
    intro p hp
    rw [holds, fieldsHold_of_mem hmem hp, Bool.or_true]
  | _ => exact nomatch h

end Json

open Json

namespace Checked

variable {β γ : Type} {data whole : Json} {c : Checked β}

/-- The issues, if there are any, hold nothing that the data does not hold. -/
abbrev Blames (data : Json) (c : Checked β) : Prop :=
  Ends (fun _ => True) (fun issues => ∀ issue ∈ issues, issue.data.Within data) c

lemma blames_ok (x : β) : Blames data (.ok x) := .ok trivial

lemma blames_refuse (kind : IssueKind) : Blames data (refuse kind data : Checked β) :=
  .error fun _ h => List.mem_singleton.mp h ▸ within_refl data

lemma Blames.within (h : c.Blames data) (hdata : data.Within whole) : c.Blames whole :=
  h.mono (fun _ _ => trivial) fun _ hissues issue hissue =>
    (hissues issue hissue).trans hdata

/-- A longer path changes no data. -/
lemma forall_mem_inside {issues : List Issue} (h : ∀ issue ∈ issues, issue.data.Within data)
    (field : String) : ∀ issue ∈ issues.map (Issue.inside field), issue.data.Within data :=
  List.forall_mem_map.mpr h

lemma Blames.inside (h : c.Blames data) (field : String) : (c.inside field).Blames data := by
  cases h with
  | ok => exact blames_ok _
  | error hissues => exact .error (forall_mem_inside hissues field)

lemma Blames.map (h : c.Blames data) (f : β → γ) : Blames data (c.map f) := by
  cases h with
  | ok => exact blames_ok _
  | error hissues => exact .error hissues

lemma Blames.both {d : Checked γ} (hc : c.Blames data) (hd : d.Blames data) :
    (both c d).Blames data := by
  cases hc with
  | ok =>
    cases hd with
    | ok => exact blames_ok _
    | error hissues => exact .error hissues
  | error hissues =>
    cases hd with
    | ok => exact .error hissues
    | error hothers => exact .error (List.forall_mem_append.mpr ⟨hissues, hothers⟩)

lemma Blames.bind {f : β → Checked γ} (hc : c.Blames data) (hf : ∀ x, (f x).Blames data) :
    Blames data (c >>= f) :=
  Ends.bind hc fun x _ => hf x

end Checked

namespace Request

open Checked

variable {β : Type}

lemma blames_real (data : Json) : (real data).Blames data := by
  fun_cases real data <;> first | exact blames_ok _ | exact blames_refuse _

lemma blames_positive (data : Json) : (positive data).Blames data := by
  refine (blames_real data).bind fun x => ?_
  split
  · exact blames_refuse .notGreater
  · exact blames_ok _

lemma blames_member (ofId? : String → Option β) (data : Json) :
    (member ofId? data).Blames data := by
  fun_cases member ofId? data <;> first | exact blames_ok _ | exact blames_refuse _

lemma ends_object (data : Json) :
    Ends (· = data) (fun issues => ∀ issue ∈ issues, issue.data.Within data) (object data) := by
  fun_cases object data
  · exact .ok rfl
  · exact .error fun _ h => List.mem_singleton.mp h ▸ within_refl data

/-- A reader of a record that blames the record does so when it is given other data as well. -/
lemma blames_object_bind {data : Json} {read : Json → Checked β} (hread : (read data).Blames data) :
    (object data >>= read).Blames data :=
  (ends_object data).bind fun _ h => h ▸ hread

variable {read : Json → Checked β} (hread : ∀ data, (read data).Blames data)

include hread

lemma blames_field (record : Json) (name : String) : (field record name read).Blames record := by
  refine Blames.inside ?_ name
  split
  · next data h => exact (hread data).within (within_of_field? h)
  · exact blames_refuse .missing

lemma blames_optionalField (record : Json) (name : String) :
    (optionalField record name read).Blames record := by
  fun_cases optionalField record name read
  · exact blames_ok _
  · exact blames_ok _
  · next data _ h => exact (((hread data).map some).inside name).within (within_of_field? h)

omit hread

lemma blames_quantity (data : Json) : (quantity data).Blames data := by
  refine blames_object_bind (Blames.bind (Blames.both ?_ ?_) fun _ => blames_ok _)
  · exact blames_field blames_real data "value"
  · exact blames_field (blames_member MeasureUnit.ofId?) data "unit"

lemma blames_operand (data : Json) : (operand data).Blames data := by
  have hnumber := blames_real data
  have hquantity := blames_quantity data
  rw [operand]
  split
  · exact blames_ok _
  · exact blames_ok _
  · next number quantity hn hq =>
    refine .error (List.forall_mem_append.mpr ⟨?_, ?_⟩)
    · exact forall_mem_inside (hnumber.of_eq_error hn) "float"
    · exact forall_mem_inside (hquantity.of_eq_error hq) quantityRecord

lemma blames_conversion (data : Json) : (conversion data).Blames data := by
  refine blames_object_bind (Blames.bind (Blames.both ?_ ?_) fun _ => blames_ok _)
  · exact blames_field blames_quantity data "quantity"
  · exact blames_field (blames_member MeasureUnit.ofId?) data "to_unit"

lemma blames_calculation (data : Json) : (calculation data).Blames data := by
  refine blames_object_bind (Blames.bind (Blames.both ?_ (Blames.both ?_ ?_)) fun _ => ?_)
  · exact blames_field (blames_member Operation.ofId?) data "operation"
  · exact blames_field blames_operand data "a"
  · exact blames_optionalField blames_operand data "b"
  · dsimp only
    split
    · exact blames_ok _
    · exact blames_refuse _

lemma blames_dynamicPressure (data : Json) : (dynamicPressure data).Blames data := by
  refine blames_object_bind (Blames.bind (Blames.both ?_ ?_) fun _ => blames_ok _)
  · exact blames_field blames_quantity data "velocity"
  · exact blames_optionalField blames_quantity data "altitude"

lemma blames_stallSpeed (data : Json) : (stallSpeed data).Blames data := by
  refine blames_object_bind
    (Blames.bind (Blames.both ?_ (Blames.both ?_ ?_)) fun _ => blames_ok _)
  · exact blames_field blames_quantity data "gross_weight"
  · exact blames_field blames_quantity data "wing_area"
  · exact blames_field blames_positive data "cl_max"

end Request

end FlightUnits
