import FlightUnits.Proofs.AnswerFaults
import FlightUnits.Proofs.RecordReading

/-!
# Answers to inquiries

A calculation is refused when its result is infinite or not a number. A conversion and the formulae
are not, so that an answer of theirs may hold a number for which JSON has no numeral; its text holds
`null` then, which is not read as a number again. An answer can be used as an operand exactly when
its result is finite. Every calculation has such answers only, and so has every other inquiry whose
numbers are neither huge nor, where one divides by them, tiny.
-/

namespace FlightUnits

open Standard

/-! ### What a text stands for -/

namespace Json

mutual

/-- The tree that the text of a tree stands for: a number without a numeral is `null` in it. -/
def asPrinted : Json → Json
  | real x => if x.isFinite then real x else null
  | array items => array (itemsAsPrinted items)
  | object fields => object (fieldsAsPrinted fields)
  | tree => tree

/-- The items of an array as they are printed. -/
def itemsAsPrinted : List Json → List Json
  | [] => []
  | item :: items => asPrinted item :: itemsAsPrinted items

/-- The fields of an object as they are printed. -/
def fieldsAsPrinted : List (String × Json) → List (String × Json)
  | [] => []
  | (name, value) :: fields => (name, asPrinted value) :: fieldsAsPrinted fields

end

mutual

lemma compact_asPrinted : ∀ tree : Json, tree.asPrinted.compact = tree.compact
  | null | truth _ | int _ | text _ => rfl
  | real x => by
    rw [asPrinted, compact, realText]
    split
    · next h => rw [compact, realText, if_pos h]
    · rfl
  | array items => by rw [asPrinted, compact, compact, compact_itemsAsPrinted items]
  | object fields => by rw [asPrinted, compact, compact, compact_fieldsAsPrinted fields]

lemma compact_itemsAsPrinted :
    ∀ items : List Json, compactItems (itemsAsPrinted items) = compactItems items
  | [] => rfl
  | item :: items => by
    rw [itemsAsPrinted, compactItems, compactItems, compact_asPrinted item,
      compact_itemsAsPrinted items]

lemma compact_fieldsAsPrinted :
    ∀ fields : List (String × Json), compactFields (fieldsAsPrinted fields) = compactFields fields
  | [] => rfl
  | (name, value) :: fields => by
    rw [fieldsAsPrinted, compactFields, compactFields, compact_asPrinted value,
      compact_fieldsAsPrinted fields]

end

mutual

lemma indented_asPrinted :
    ∀ (depth : Nat) (tree : Json), tree.asPrinted.indented depth = tree.indented depth
  | _, null | _, truth _ | _, int _ | _, text _ => rfl
  | depth, real x => by
    rw [asPrinted, indented, realText]
    split
    · next h => rw [indented, realText, if_pos h]
    · rfl
  | depth, array items => by
    rw [asPrinted, indented, indented, indented_itemsAsPrinted (depth + 2) items]
  | depth, object fields => by
    rw [asPrinted, indented, indented, indented_fieldsAsPrinted (depth + 2) fields]

lemma indented_itemsAsPrinted : ∀ (depth : Nat) (items : List Json),
    indentedItems depth (itemsAsPrinted items) = indentedItems depth items
  | _, [] => rfl
  | depth, item :: items => by
    rw [itemsAsPrinted, indentedItems, indentedItems, indented_asPrinted depth item,
      indented_itemsAsPrinted depth items]

lemma indented_fieldsAsPrinted : ∀ (depth : Nat) (fields : List (String × Json)),
    indentedFields depth (fieldsAsPrinted fields) = indentedFields depth fields
  | _, [] => rfl
  | depth, (name, value) :: fields => by
    rw [fieldsAsPrinted, indentedFields, indentedFields, indented_asPrinted depth value,
      indented_fieldsAsPrinted depth fields]

end

end Json

/-! ### Inquiries -/

/-- A request for one of the four answers. -/
inductive Inquiry where
  | calculation (request : CalculationRequest)
  | conversion (request : ConvertRequest)
  | pressure (request : DynamicPressureRequest)
  | stallSpeed (request : StallSpeedRequest)

namespace Inquiry

/-- The result of an inquiry, and the tree that tells it. -/
def answer : Inquiry → Except (Fault Number) (Operand Binary64 × Json)
  | calculation request => (calculate machineTables request).map fun r => (r.result, r.toJson)
  | conversion request =>
    (convertQuantity units request).map fun r => (.quantity r.result, r.toJson)
  | pressure request => (answerPressure units request).map fun q => (.quantity q, q.toJson)
  | stallSpeed request => (answerStallSpeed units request).map fun q => (.quantity q, q.toJson)

/--
No number is so large, and no divisor so small, that the result could be too large. Calculations
need no such condition.
-/
def IsModerate : Inquiry → Prop
  | calculation _ => True
  | conversion request => request.quantity.value.AtMost 980
  | pressure request => request.velocity.value.AtMost 450
  | stallSpeed request => request.grossWeight.value.AtMost 300 ∧ request.wingArea.value.AtMost 300 ∧
      request.wingArea.value.AtLeast 300 ∧ request.clMax.AtLeast 300

instance : DecidablePred IsModerate
  | calculation _ => instDecidableTrue
  | conversion request => inferInstanceAs (Decidable (request.quantity.value.AtMost 980))
  | pressure request => inferInstanceAs (Decidable (request.velocity.value.AtMost 450))
  | stallSpeed request => inferInstanceAs (Decidable (request.grossWeight.value.AtMost 300 ∧
      request.wingArea.value.AtMost 300 ∧ request.wingArea.value.AtLeast 300 ∧
      request.clMax.AtLeast 300))

end Inquiry

/-- An answer with a numeral for every number, and a result that is read from its text again. -/
structure IsUsable (result : Operand Binary64) (tree : Json) : Prop where
  numerals : ¬ tree.holds Json.isNonFinite
  reads : Request.operand result.toJson.asPrinted = .ok result

section Answers

variable {inquiry : Inquiry} {result : Operand Binary64} {tree : Json}

lemma operand_asPrinted_iff (r : Operand Binary64) :
    Request.operand r.toJson.asPrinted = .ok r ↔ r.value.isFinite := by
  cases r with
  | number x =>
    rw [Operand.toJson, Json.asPrinted]
    split
    · next h => exact iff_of_true rfl h
    · next h => exact iff_of_false (by rintro ⟨⟩) h
  | quantity q =>
    have hprinted : q.toJson.asPrinted =
        .object [("value", (Json.real q.value).asPrinted), ("unit", .text q.unit.id)] := rfl
    rw [Operand.toJson, hprinted, Json.asPrinted]
    split
    · next h => exact iff_of_true (Request.operand_toJson (.quantity q)) h
    · next h =>
      refine iff_of_false (fun hread => ?_) h
      rw [Request.operand] at hread
      split at hread
      · cases hread
      · next p _ hp => cases ((Request.quantity_eq_ok_iff rfl rfl).mp hp).1
      · cases hread

/-! Of the numbers in an answer, the result tells whether all are finite. -/

lemma Quantity.holds_toJson (q : Quantity Binary64) :
    q.toJson.holds Json.isNonFinite = !q.value.isFinite := by
  simp [Quantity.toJson, Json.holds, Json.fieldsHold, Json.isNonFinite]

lemma Operand.holds_toJson (r : Operand Binary64) :
    r.toJson.holds Json.isNonFinite = !r.value.isFinite := by
  cases r with
  | number x => rfl
  | quantity q => exact q.holds_toJson

lemma CalculationResult.holds_toJson (r : CalculationResult) :
    r.toJson.holds Json.isNonFinite = !r.result.value.isFinite := by
  obtain ⟨operation, result, dimension, description⟩ := r
  rw [← Operand.holds_toJson]
  cases dimension <;> cases description <;>
    simp [CalculationResult.toJson, Json.holds, Json.fieldsHold, Json.isNonFinite]

lemma ConversionResult.holds_toJson (r : ConversionResult) :
    r.toJson.holds Json.isNonFinite = !(r.source.value.isFinite && r.result.value.isFinite) := by
  simp [ConversionResult.toJson, Json.holds, Json.fieldsHold, Json.isNonFinite,
    Quantity.holds_toJson]

namespace Inquiry

lemma holds_of_answer (h : inquiry.answer = .ok (result, tree)) :
    tree.holds Json.isNonFinite = !result.value.isFinite := by
  cases inquiry with
  | calculation request =>
    obtain ⟨r, -, hr⟩ := map_eq_ok_iff.mp h
    obtain ⟨rfl, rfl⟩ := Prod.mk.inj hr
    exact r.holds_toJson
  | conversion request =>
    obtain ⟨r, hconvert, hr⟩ := map_eq_ok_iff.mp h
    obtain ⟨rfl, rfl⟩ := Prod.mk.inj hr
    obtain ⟨-, rfl⟩ := (endsAnswerable_convertQuantity request).of_eq_ok hconvert
    -- The source is told as well, and a finite result comes of a finite source only.
    have hsource := Quantity.isFinite_of_inUnit (q := request.quantity) (u := request.target)
    rw [ConversionResult.holds_toJson, Bool.and_eq_right_iff_imp.mpr hsource]
    rfl
  | pressure request | stallSpeed request =>
    obtain ⟨q, -, hq⟩ := map_eq_ok_iff.mp h
    obtain ⟨rfl, rfl⟩ := Prod.mk.inj hq
    exact q.holds_toJson

/-- An answer can be used just when its result is finite. -/
lemma isUsable_iff (h : inquiry.answer = .ok (result, tree)) :
    IsUsable result tree ↔ result.value.isFinite := by
  constructor
  · exact fun husable => (operand_asPrinted_iff result).mp husable.reads
  · intro hfinite
    refine ⟨?_, (operand_asPrinted_iff result).mpr hfinite⟩
    rw [holds_of_answer h, hfinite]
    exact Bool.false_ne_true

lemma atMost_pressureAt {velocity : Quantity Binary64} {ratio : Binary64}
    (hvelocity : velocity.value.AtMost 450) (hratio : ratio.AtMost 18) :
    (Flight.pressureAt velocity ratio).value.AtMost 996 := by
  have hfactor : Flight.pressureFactor.AtMost 0 := by decide +kernel
  have hmph := Quantity.atMost_inUnit (u := .milePerHour) hvelocity (by decide) (by decide)
  have hsquare := (hfactor.mul hmph (by decide)).mul hmph (by decide)
  have hpressure := hsquare.mul hratio (by decide)
  simp only [Flight.pressureAt]
  exact hpressure

lemma atMost_stallSpeedAt {grossWeight wingArea : Quantity Binary64} {clMax : Binary64}
    (hweight : grossWeight.value.AtMost 300) (hlarge : wingArea.value.AtMost 300)
    (hsmall : wingArea.value.AtLeast 300) (hcl : clMax.AtLeast 300)
    (h : Flight.IsFlyable grossWeight wingArea clMax) :
    (Flight.stallSpeedAt grossWeight wingArea clMax).value.AtMost 475 := by
  have hpounds := Quantity.atMost_inUnit (u := .pound) hweight (by decide) (by decide)
  have harea := Quantity.atMost_inUnit (u := .squareFoot) hlarge (by decide) (by decide)
  have hdivisor := Quantity.atLeast_inUnit (u := .squareFoot) hsmall (by decide) (by decide)
    harea.isFinite h.area
  have hratio := (hpounds.div hdivisor (by decide)).div hcl (by decide)
  have hroot := (hratio.mono (k := 2 * 470) (by decide)).sqrt
    (fun hnumber => hratio.not_isNaN (h.ratio hnumber)) (by decide)
  have htwenty : (Binary64.ofInt 20).AtMost 5 :=
    Binary64.atMost_ofInt (by decide) (by decide)
  have hspeed := htwenty.mul hroot (by decide)
  simp only [Flight.stallSpeedAt]
  exact hspeed

/-- Calculations have finite results only, and so has every inquiry about moderate numbers. -/
lemma isFinite_of_isModerate (h : inquiry.answer = .ok (result, tree))
    (hmoderate : inquiry.IsModerate) : result.value.isFinite := by
  cases inquiry with
  | calculation request =>
    obtain ⟨r, hcalculate, hr⟩ := map_eq_ok_iff.mp h
    obtain ⟨rfl, -⟩ := Prod.mk.inj hr
    exact (endsAnswerable_calculate request).of_eq_ok hcalculate
  | conversion request =>
    obtain ⟨r, hconvert, hr⟩ := map_eq_ok_iff.mp h
    obtain ⟨rfl, -⟩ := Prod.mk.inj hr
    obtain ⟨-, rfl⟩ := (endsAnswerable_convertQuantity request).of_eq_ok hconvert
    exact (Quantity.atMost_inUnit hmoderate (by decide) (by decide)).isFinite
  | pressure request =>
    obtain ⟨q, hpressure, hq⟩ := map_eq_ok_iff.mp h
    obtain ⟨rfl, -⟩ := Prod.mk.inj hq
    obtain ⟨ratio, hratio, rfl⟩ := (endsAnswerable_answerPressure request).of_eq_ok hpressure
    exact (atMost_pressureAt hmoderate hratio).isFinite
  | stallSpeed request =>
    obtain ⟨q, hspeed, hq⟩ := map_eq_ok_iff.mp h
    obtain ⟨rfl, -⟩ := Prod.mk.inj hq
    obtain ⟨hflyable, rfl⟩ := (endsAnswerable_answerStallSpeed request).of_eq_ok hspeed
    obtain ⟨hweight, hlarge, hsmall, hcl⟩ := hmoderate
    exact (atMost_stallSpeedAt hweight hlarge hsmall hcl hflyable).isFinite

end Inquiry

end Answers

end FlightUnits
