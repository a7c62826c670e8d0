import FlightUnits.Proofs.CommandLineEndings
import FlightUnits.Proofs.ErrorMapping
import FlightUnits.Proofs.PostedData

/-!
# Posted tasks

A task of the command line and a request to the service can ask for the same: then the program reads
its words to the same record as the service reads its data, or neither reads a record. Both do the
same with the record, so that the program shows what the service finds. The service repeats the data
that it refuses, which the program does not; of this data only a word for a unit can be in the way
of a reply.
-/

namespace FlightUnits

open Standard CommandLine Service Text

section Tasks

variable {x : Binary64} {unit target : String} {number left data : Json}
  {operation : Operation} {a : WrittenOperand} {b : Option WrittenOperand}
  {altitude : Option (String × String)} {rest : List (String × Json)}

namespace Request

lemma conversion_posted_eq_ok_iff (h : real number = .ok x) {request : ConvertRequest} :
    conversion (.object [("quantity", .ofQuantity number unit), ("to_unit", .text target)]) =
        .ok request ↔
      Quantity.ofWord? x unit = some request.quantity ∧
        MeasureUnit.ofId? target = some request.target := by
  rw [conversion_eq_ok_iff rfl rfl, quantity_ofQuantity_eq_ok_iff h, member_text_eq_ok_iff]

/-- What is known of the fields of a posted calculation. -/
lemma fields_calculation (operation : Operation) (left : Json)
    (hb : OptionalField "b" WrittenOperand.IsPostedAs b rest) :
    let record := Json.object (("operation", .text operation.id) :: ("a", left) :: rest)
    record.field? "operation" = some (.text operation.id) ∧ record.field? "a" = some left ∧
      record.field? "b" = (Json.object rest).field? "b" := by
  cases hb <;> exact ⟨rfl, rfl, rfl⟩

lemma calculation_posted_eq_ok_iff (ha : a.IsPostedAs left)
    (hb : OptionalField "b" WrittenOperand.IsPostedAs b rest) {request : CalculationRequest} :
    calculation (.object (("operation", .text operation.id) :: ("a", left) :: rest)) =
        .ok request ↔
      ∃ y z, a.operand? = some y ∧ optionally WrittenOperand.operand? b = some z ∧
        arrange? operation y z = some request := by
  obtain ⟨ho, hleft, hright⟩ := fields_calculation operation left hb
  have hread (w : WrittenOperand) (data : Json) (hw : w.IsPostedAs data) :
      data ≠ .null ∧ ∀ y, operand data = .ok y ↔ w.operand? = some y :=
    ⟨hw.ne_null, fun _ => operand_eq_ok_iff hw⟩
  rw [calculation_eq_ok_iff ho hleft]
  simp only [operand_eq_ok_iff ha, optionalField_eq_ok_iff hb hright hread]

/-- What is known of the fields of a posted question for a dynamic pressure. -/
lemma fields_pressure (unit : String) (number : Json)
    (haltitude : OptionalField "altitude" IsPostedAltitude altitude rest) :
    let record := Json.object (("velocity", .ofQuantity number unit) :: rest)
    record.field? "velocity" = some (.ofQuantity number unit) ∧
      record.field? "altitude" = (Json.object rest).field? "altitude" := by
  cases haltitude <;> exact ⟨rfl, rfl⟩

lemma dynamicPressure_posted_eq_ok_iff (h : real number = .ok x)
    (haltitude : OptionalField "altitude" IsPostedAltitude altitude rest)
    {request : DynamicPressureRequest} :
    dynamicPressure (.object (("velocity", .ofQuantity number unit) :: rest)) = .ok request ↔
      Quantity.ofWord? x unit = some request.velocity ∧
        optionally altitudeOfWords? altitude = some request.altitude := by
  obtain ⟨hvelocity, hfield⟩ := fields_pressure unit number haltitude
  have hread (words : String × String) (data : Json) (hw : IsPostedAltitude words data) :
      data ≠ .null ∧ ∀ q, quantity data = .ok q ↔ altitudeOfWords? words = some q := by
    cases hw with
    | mk hvalue hnumber =>
      refine ⟨nofun, fun q => ?_⟩
      rw [quantity_ofQuantity_eq_ok_iff hnumber.1, altitudeOfWords?, hvalue, Option.bind_some]
  rw [dynamicPressure_eq_ok_iff hvelocity, quantity_ofQuantity_eq_ok_iff h,
    optionalField_eq_ok_iff haltitude hfield hread]

end Request

namespace CommandLine

/-! The program reads its words to the same records as the service reads the data. -/

lemma ConvertSettings.request_eq_ok_iff {request : ConvertRequest} :
    ConvertSettings.request ⟨x, some unit, some target, true⟩ = .ok request ↔
      Quantity.ofWord? x unit = some request.quantity ∧
        MeasureUnit.ofId? target = some request.target := by
  have hquantity (q : Quantity Binary64) :
      Request.quantityOf (.ofQuantity (.real x) unit) = .ok q ↔
        Quantity.ofWord? x unit = some q :=
    mapError_eq_ok_iff.trans (Request.quantity_ofQuantity_eq_ok_iff rfl)
  have hconversion (q : Quantity Binary64) : Request.conversionRecord
      (.object [("quantity", q.toJson), ("to_unit", .text target)]) = .ok request ↔
        q = request.quantity ∧ MeasureUnit.ofId? target = some request.target := by
    refine mapError_eq_ok_iff.trans ?_
    rw [Request.conversion_eq_ok_iff rfl rfl, Request.quantity_toJson, Except.ok.injEq,
      Request.member_text_eq_ok_iff]
  refine bind_eq_ok_iff.trans ?_
  constructor
  · rintro ⟨q, hq, hrequest⟩
    obtain ⟨rfl, htarget⟩ := (hconversion q).mp hrequest
    exact ⟨(hquantity _).mp hq, htarget⟩
  · rintro ⟨hq, htarget⟩
    exact ⟨_, (hquantity _).mpr hq, (hconversion _).mpr ⟨rfl, htarget⟩⟩

lemma WrittenOperand.IsPostedAs.toJson (h : a.IsPostedAs data) : a.IsPostedAs a.toJson := by
  cases h with
  | number h => exact .number ⟨rfl, h.2⟩
  | tagged h => exact .tagged ⟨rfl, h.2⟩

lemma CalculateSettings.request_eq_ok_iff (ha : a.IsPostedAs left)
    (hb : OptionalField "b" WrittenOperand.IsPostedAs b rest) {request : CalculationRequest} :
    CalculateSettings.request ⟨operation, some a, b, true⟩ = .ok request ↔
      ∃ y z, a.operand? = some y ∧ optionally WrittenOperand.operand? b = some z ∧
        Request.arrange? operation y z = some request := by
  have hwritten : OptionalField "b" WrittenOperand.IsPostedAs b
      [("b", (b.map WrittenOperand.toJson).getD .null)] := by
    cases hb with
    | missing | null => exact .null
    | given h => exact .given h.toJson
  exact mapError_eq_ok_iff.trans (Request.calculation_posted_eq_ok_iff ha.toJson hwritten)

lemma quantityOfWord_eq_ok_iff {q : Quantity Binary64} :
    quantityOfWord x (some unit) = .ok q ↔ Quantity.ofWord? x unit = some q := by
  refine mapError_eq_ok_iff.trans ?_
  rw [unitOfWord, UnitTag.ofText, Quantity.ofWord?]
  cases MeasureUnit.ofId? unit with
  | none => exact iff_of_false (by rintro ⟨⟩) (by rintro ⟨⟩)
  | some u => exact ⟨fun h => congrArg some (Except.ok.inj h), fun h => congrArg Except.ok
      (Option.some.inj h)⟩

lemma altitudeOfWords_eq_ok_iff {words : String × String} {q : Quantity Binary64} :
    altitudeOfWords words = .ok q ↔ altitudeOfWords? words = some q := by
  rw [altitudeOfWords, altitudeOfWords?]
  cases Binary64.ofText? words.1 with
  | none => exact iff_of_false (by rintro ⟨⟩) (by rintro ⟨⟩)
  | some y => exact quantityOfWord_eq_ok_iff

lemma PressureSettings.request_eq_ok_iff {request : DynamicPressureRequest} :
    PressureSettings.request ⟨x, some unit, altitude, true⟩ = .ok request ↔
      Quantity.ofWord? x unit = some request.velocity ∧
        optionally altitudeOfWords? altitude = some request.altitude := by
  refine bind_eq_ok_iff.trans ?_
  simp only [quantityOfWord_eq_ok_iff]
  cases altitude with
  | none =>
    constructor
    · rintro ⟨q, hq, hrequest⟩
      obtain rfl := Except.ok.inj hrequest
      exact ⟨hq, rfl⟩
    · rintro ⟨hq, haltitude⟩
      refine ⟨_, hq, ?_⟩
      rw [Option.some.inj haltitude]
      rfl
  | some words =>
    simp only [bind_eq_ok_iff, altitudeOfWords_eq_ok_iff, optionally, Option.map_eq_some_iff]
    constructor
    · rintro ⟨q, hq, r, hr, hrequest⟩
      obtain rfl := Except.ok.inj hrequest
      exact ⟨hq, r, hr, rfl⟩
    · rintro ⟨hq, r, hr, haltitude⟩
      refine ⟨_, hq, r, hr, ?_⟩
      rw [haltitude]
      rfl

end CommandLine

/-- What a task comes to for a verdict: a result as JSON, some message, or the text of a fault. -/
inductive Shows : Verdict → Except Trouble String → Prop where
  | accepted (tree : Json) : Shows (.accepted tree) (.ok (tree.indented 0 ++ "\n"))
  | invalid (issues : List Issue) (message : String) :
    Shows (.invalid issues) (.error (.reported message))
  | failed (f : Fault Number) : Shows (.failed f) (.error (.reported f.message))

/-- Two front ends that read the same record, and do the same with it, show the same. -/
lemma shows_of {β γ : Type} {read : Json → Checked β} {request : Except Trouble β}
    (hsame : ∀ x, read data = .ok x ↔ request = .ok x) (hrequest : Reports request)
    {answer : β → Except (Fault Number) γ} {Q : β → γ → Prop} {faults reported : FaultKind → Bool}
    (hanswer : ∀ x, Ends (Q x) (Fault.IsAnswerable faults) (answer x))
    (hreported : ∀ k, faults k → reported k) (encode : γ → Json) (plain : γ → String) :
    Shows (.of read (fun x => (answer x).map encode) (some (.ok data))) (do
      let x ← request
      let result ← report reported (answer x)
      return shown true (encode result) (plain result)) := by
  rcases hx : read data with issues | x
  · rw [Verdict.of_eq_invalid hx]
    rcases ht : request with trouble | y
    · obtain ⟨message, rfl⟩ := hrequest.of_eq_error ht
      exact .invalid _ message
    · exact nomatch hx.symm.trans ((hsame y).mpr ht)
  · rw [Verdict.of_of_ok hx, (hsame x).mp hx, ok_bind]
    rcases hy : answer x with f | y
    · have hkind : reported f.kind := hreported f.kind ((hanswer x).of_eq_error hy).1
      have hreport : report reported (.error f : Except (Fault Number) γ) =
          .error (.reported f.message) := congrArg Except.error (if_pos hkind)
      rw [hreport]
      exact .failed f
    · exact .accepted (encode y)

/-! Of the data of a task only the words for units can keep it from being written. -/

namespace Service

/-- Words for units that are not plain are refused, and repeated in the refusal. -/
lemma isWritable_of_iff {β : Type} {read : Json → Checked β}
    (hread : ∀ data, (read data).Blames data) (perform : β → Except (Fault Number) Json)
    {words : List String} (hdata : (∀ w ∈ words, IsPlain w) → data.IsWritable)
    (hrepeats : ∀ w ∈ words, MeasureUnit.ofId? w = none → (read data).Repeats (.text w)) :
    (Verdict.of read perform (some (.ok data))).IsWritable ↔ ∀ w ∈ words, IsPlain w := by
  refine ⟨fun hwritable w hw => ?_, fun h => isWritable_of_data (hread data) perform (hdata h)⟩
  rcases hid : MeasureUnit.ofId? w with - | u
  · obtain ⟨issues, hissues, issue, hissue, htext⟩ := hrepeats w hw hid
    rw [Verdict.of_eq_invalid hissues] at hwritable
    have hdata : issue.data.IsWritable := List.forall_mem_map.mp hwritable issue hissue
    rw [htext] at hdata
    exact Json.isWritable_text.mp hdata
  · exact MeasureUnit.isPlain_of_ofId? hid

end Service

namespace CommandLine.WrittenOperand.IsPostedAs

lemma isWritable (h : a.IsPostedAs data) (hplain : ∀ w ∈ a.unit?.toList, IsPlain w) :
    data.IsWritable := by
  cases h with
  | number h => exact h.isWritable
  | @tagged x unit number h =>
    exact (Json.isWritable_ofQuantity h).mpr (hplain unit List.mem_cons_self)

lemma repeats (h : a.IsPostedAs data) {w : String} (hw : w ∈ a.unit?.toList)
    (hid : MeasureUnit.ofId? w = none) : (Request.operand data).Repeats (.text w) := by
  cases h with
  | number h => exact absurd hw List.not_mem_nil
  | tagged h =>
    obtain rfl := List.mem_singleton.mp hw
    exact Request.repeats_operand hid

end CommandLine.WrittenOperand.IsPostedAs

lemma OptionalField.isWritable {β : Type} {name : String} {posted : β → Json → Prop} {y : Option β}
    (h : OptionalField name posted y rest) (hname : IsPlain name)
    (hdata : ∀ x ∈ y, ∀ data, posted x data → data.IsWritable) :
    Json.FieldsWritable rest := by
  have hnull : Json.null.IsWritable := by decide
  cases h with
  | missing => exact Json.fieldsWritable_nil
  | null => exact Json.fieldsWritable_nil.cons hname hnull
  | given hx => exact Json.fieldsWritable_nil.cons hname (hdata _ rfl _ hx)

namespace CommandLine.Task.IsPostedAs

lemma isWritable_convert (h : number.StandsFor x) (hplain : ∀ w ∈ [unit, target], IsPlain w) :
    (Json.object
      [("quantity", .ofQuantity number unit), ("to_unit", .text target)]).IsWritable := by
  obtain ⟨hunit, htarget⟩ := List.forall_mem_cons.mp hplain
  have hgoal : Json.FieldsWritable [("to_unit", .text target)] :=
    Json.fieldsWritable_nil.cons (by decide)
      (Json.isWritable_text.mpr (List.forall_mem_singleton.mp htarget))
  exact Json.isWritable_object.mpr
    (hgoal.cons (by decide) ((Json.isWritable_ofQuantity h).mpr hunit))

lemma isWritable_calculate (ha : a.IsPostedAs left)
    (hb : OptionalField "b" WrittenOperand.IsPostedAs b rest)
    (hplain : ∀ w ∈ a.unit?.toList ++ (b.bind WrittenOperand.unit?).toList, IsPlain w) :
    (Json.object (("operation", .text operation.id) :: ("a", left) :: rest)).IsWritable := by
  obtain ⟨hleft, hright⟩ := List.forall_mem_append.mp hplain
  have hrest : Json.FieldsWritable rest := by
    refine hb.isWritable (by decide) fun w hw data hdata => hdata.isWritable ?_
    obtain rfl := Option.mem_def.mp hw
    exact hright
  have hoperation := Json.isWritable_text.mpr operation.isPlain_id
  exact Json.isWritable_object.mpr
    ((hrest.cons (by decide) (ha.isWritable hleft)).cons (by decide) hoperation)

lemma isWritable_dynamicPressure (h : number.StandsFor x)
    (haltitude : OptionalField "altitude" IsPostedAltitude altitude rest)
    (hplain : ∀ w ∈ unit :: (altitude.map Prod.snd).toList, IsPlain w) :
    (Json.object (("velocity", .ofQuantity number unit) :: rest)).IsWritable := by
  obtain ⟨hunit, hright⟩ := List.forall_mem_cons.mp hplain
  have hrest : Json.FieldsWritable rest := by
    refine haltitude.isWritable (by decide) fun words hwords data hdata => ?_
    obtain rfl := Option.mem_def.mp hwords
    cases hdata with
    | mk hvalue hnumber =>
      exact (Json.isWritable_ofQuantity hnumber).mpr (hright _ List.mem_cons_self)
  exact Json.isWritable_object.mpr
    (hrest.cons (by decide) ((Json.isWritable_ofQuantity h).mpr hunit))

end CommandLine.Task.IsPostedAs

namespace Request

variable {w : String} (hid : MeasureUnit.ofId? w = none)

include hid

lemma repeats_convert (hw : w ∈ [unit, target]) :
    (conversion (.object
      [("quantity", .ofQuantity number unit), ("to_unit", .text target)])).Repeats (.text w) := by
  have hfield : (Json.object [("quantity", .ofQuantity number unit),
      ("to_unit", .text target)]).field? "quantity" = some (.ofQuantity number unit) := rfl
  refine repeats_conversion hfield rfl ?_
  rcases List.mem_cons.mp hw with rfl | hw
  · exact .inl (repeats_ofQuantity _ hid)
  · obtain rfl := List.mem_singleton.mp hw
    exact .inr (repeats_member hid)

lemma repeats_calculate (ha : a.IsPostedAs left)
    (hb : OptionalField "b" WrittenOperand.IsPostedAs b rest)
    (hw : w ∈ a.unit?.toList ++ (b.bind WrittenOperand.unit?).toList) :
    (calculation (.object (("operation", .text operation.id) :: ("a", left) :: rest))).Repeats
      (.text w) := by
  obtain ⟨ho, hleft, hright⟩ := fields_calculation operation left hb
  refine repeats_calculation ho hleft ?_
  rcases List.mem_append.mp hw with hw | hw
  · exact .inl (ha.repeats hw hid)
  · obtain ⟨c, hc, hunit⟩ := Option.bind_eq_some_iff.mp (Option.mem_toList.mp hw)
    refine .inr (repeats_optionalField hb hright hc fun data hdata => ⟨hdata.ne_null, ?_⟩)
    exact hdata.repeats (Option.mem_toList.mpr hunit) hid

lemma repeats_pressure (haltitude : OptionalField "altitude" IsPostedAltitude altitude rest)
    (hw : w ∈ unit :: (altitude.map Prod.snd).toList) :
    (dynamicPressure (.object (("velocity", .ofQuantity number unit) :: rest))).Repeats
      (.text w) := by
  obtain ⟨hvelocity, hfield⟩ := fields_pressure unit number haltitude
  refine repeats_dynamicPressure hvelocity ?_
  rcases List.mem_cons.mp hw with rfl | hw
  · exact .inl (repeats_ofQuantity _ hid)
  · obtain ⟨words, hwords, rfl⟩ := Option.map_eq_some_iff.mp (Option.mem_toList.mp hw)
    refine .inr (repeats_optionalField haltitude hfield hwords fun data hdata => ?_)
    cases hdata with
    | mk => exact ⟨nofun, repeats_ofQuantity _ hid⟩

end Request

/-- A posted task shows what the service finds of its data. -/
lemma shows_run {task : Task} {path : String} (h : task.IsPostedAs path data) :
    ∃ route v, Destination.of "POST" path = .reached route ∧
      route.verdict? machineTables (some (.ok data)) = some v ∧
        Shows v (task.run machineTables) ∧ (v.IsWritable ↔ ∀ w ∈ task.unitWords, IsPlain w) := by
  cases h with
  | @convert x unit target number h =>
    refine ⟨.convert, _, by decide, rfl, ?_, ?_⟩
    · refine shows_of (fun request => ?_) (reports_reportRejection _)
        endsAnswerable_convertQuantity isValueFault_of_isUnitFault ConversionResult.toJson _
      rw [Request.conversion_posted_eq_ok_iff h.1, reportRejection_eq_ok_iff,
        ConvertSettings.request_eq_ok_iff]
    · exact isWritable_of_iff Request.blames_conversion _ (Task.IsPostedAs.isWritable_convert h)
        fun w hw hid => Request.repeats_convert hid hw
  | calculate ha hb =>
    refine ⟨.calculate, _, by decide, rfl, ?_, ?_⟩
    · refine shows_of (fun request => ?_) (reports_reportRejection _) endsAnswerable_calculate
        (fun _ h => h) CalculationResult.toJson _
      rw [Request.calculation_posted_eq_ok_iff ha hb, reportRejection_eq_ok_iff,
        CalculateSettings.request_eq_ok_iff ha hb]
    · exact isWritable_of_iff Request.blames_calculation _
        (Task.IsPostedAs.isWritable_calculate ha hb)
        fun w hw hid => Request.repeats_calculate hid ha hb hw
  | dynamicPressure h haltitude =>
    refine ⟨.dynamicPressure, _, by decide, rfl, ?_, ?_⟩
    · refine shows_of (fun request => ?_) (PressureSettings.reports_request _)
        endsAnswerable_answerPressure (fun _ h => h) Quantity.toJson _
      rw [Request.dynamicPressure_posted_eq_ok_iff h.1 haltitude,
        PressureSettings.request_eq_ok_iff]
    · exact isWritable_of_iff Request.blames_dynamicPressure _
        (Task.IsPostedAs.isWritable_dynamicPressure h haltitude)
        fun w hw hid => Request.repeats_pressure hid haltitude hw

end Tasks

end FlightUnits
