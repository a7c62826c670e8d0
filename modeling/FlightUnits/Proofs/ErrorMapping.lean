import FlightUnits.Proofs.AnswerFaults
import FlightUnits.Proofs.RequestIssues
import FlightUnits.Service.Reply

/-!
# The error mapping of the service

Each route that takes a body has a verdict on it: the result of the core, all issues of the data, or
the fault of the core. The error mapping promises a reply for every verdict: `200`, `422`, and `400`
with the text of the fault. Whatever the body holds, the core fails in ways only that its route
reports, so that no fault is left without a reply. What can keep the service from its promise are
issues: a reply repeats their data, which may hold an infinite number, a NaN or a surrogate.
-/

namespace FlightUnits.Service

open Standard

/-- What comes of a body: a result, everything wrong with the data, a fault, or nothing to read. -/
inductive Verdict where
  | accepted (tree : Json)
  | invalid (issues : List Issue)
  | failed (fault : Fault Number)
  | unread

namespace Verdict

/-- The verdict on what a body holds, by the reader of a record and what is done with the record. -/
def of {β : Type} (read : Json → Checked β) (perform : β → Except (Fault Number) Json) :
    Option (Checked Json) → Verdict
  | none => unread
  | some data =>
    match Checked.inside "body" (data.bind read) with
    | .error issues => invalid issues
    | .ok request =>
      match perform request with
      | .ok tree => accepted tree
      | .error f => failed f

section Data

variable {β : Type} {read : Json → Checked β} {perform : β → Except (Fault Number) Json}
  {data : Json} {record : β}

lemma of_eq_invalid {issues : List Issue} (h : read data = .error issues) :
    of read perform (some (.ok data)) = invalid (issues.map (Issue.inside "body")) := by
  have hread : Checked.inside "body" (Except.bind (.ok data) read) =
      .error (issues.map (Issue.inside "body")) := by
    change Checked.inside "body" (read data) = _
    rw [h]
    rfl
  rw [of, hread]

lemma of_of_ok (h : read data = .ok record) :
    of read perform (some (.ok data)) =
      match perform record with
      | .ok tree => accepted tree
      | .error f => failed f := by
  have hread : Checked.inside "body" (Except.bind (.ok data) read) = .ok record := by
    change Checked.inside "body" (read data) = _
    rw [h]
    rfl
  rw [of, hread]

end Data

/-- The reply that the error mapping promises. -/
def promise : Verdict → Reply
  | accepted tree => .json 200 tree
  | invalid issues => .invalid issues
  | failed f => .json 400 (.object [("detail", .text f.message)])
  | unread => .json 400 (.object [("detail", .text "There was an error parsing the body")])

/-- The promised reply can be written. -/
def IsWritable : Verdict → Prop
  | invalid issues => ∀ issue ∈ issues, issue.data.IsWritable
  | _ => True

end Verdict

/-- The verdict of a route on what a body holds; some routes take none. -/
def Route.verdict? (t : Tables Number) (data : Option (Checked Json)) : Route → Option Verdict
  | .convert => some (.of Request.conversion
      (fun request => (convertQuantity t.units request).map ConversionResult.toJson) data)
  | .calculate => some (.of Request.calculation
      (fun request => (FlightUnits.calculate t request).map CalculationResult.toJson) data)
  | .dynamicPressure => some (.of Request.dynamicPressure
      (fun request => (answerPressure t.units request).map Quantity.toJson) data)
  | .stallSpeed => some (.of Request.stallSpeed
      (fun request => (answerStallSpeed t.units request).map Quantity.toJson) data)
  | .health | .units | .unit _ | .dimensions => none

/-- The verdict on a request that leads to a route with a body. -/
def HttpRequest.verdict? (t : Tables Number) (request : HttpRequest) : Option Verdict :=
  match Destination.of request.method request.path with
  | .reached route => route.verdict? t (bodyData request.contentType request.body)
  | _ => none

namespace Reply

lemma refusal_of_isPlain (status : Nat) {detail : String} (h : Text.IsPlain detail) :
    refusal status detail = .json status (.object [("detail", .text detail)]) := by
  rw [refusal, if_neg h]

lemma ofIssues_of_forall {issues : List Issue} (h : ∀ issue ∈ issues, issue.data.IsWritable) :
    ofIssues issues = .invalid issues := by
  have hfinite : ¬ issues.any fun issue => issue.data.holds Json.isNonFinite := by
    rw [List.any_eq_true]
    rintro ⟨issue, hissue, hholds⟩
    exact (h issue hissue).1 hholds
  have hplain : ¬ issues.any fun issue => issue.data.holds Json.hasSurrogate := by
    rw [List.any_eq_true]
    rintro ⟨issue, hissue, hholds⟩
    exact (h issue hissue).2 hholds
  rw [ofIssues, if_neg hfinite, if_neg hplain]

/-- An issue that cannot be written keeps the others from being written too. -/
lemma ofIssues_of_not_forall {issues : List Issue}
    (h : ¬ ∀ issue ∈ issues, issue.data.IsWritable) :
    ofIssues issues = .crash .nonFinite ∨ ofIssues issues = .crash .surrogate := by
  rw [ofIssues]
  split
  · exact .inl rfl
  · next hfinite =>
    split
    · exact .inr rfl
    · next hplain =>
      rw [List.any_eq_true] at hfinite hplain
      exact absurd (fun issue hissue => ⟨fun hp => hfinite ⟨issue, hissue, hp⟩,
        fun hp => hplain ⟨issue, hissue, hp⟩⟩) h

end Reply

/-- A reply keeps a promise that can be written, and otherwise is none, though not for a fault. -/
structure Keeps (v : Verdict) (r : Reply) : Prop where
  promised : v.IsWritable → r = v.promise
  crashed : ¬ v.IsWritable → r = .crash .nonFinite ∨ r = .crash .surrogate

lemma keeps_replyToBody {β : Type} (read : Json → Checked β) {reported : FaultKind → Bool}
    {perform : β → Except (Fault Number) Json} (hperform : ∀ request,
      Ends (fun _ => True) (Fault.IsAnswerable reported) (perform request))
    (contentType body : String) :
    Keeps (.of read perform (bodyData contentType body))
      (replyToBody read reported perform contentType body) := by
  rw [replyToBody]
  rcases bodyData contentType body with - | data
  · exact ⟨fun _ => Reply.refusal_of_isPlain 400 (by decide +kernel), fun h => absurd trivial h⟩
  · simp only [Verdict.of]
    rcases Checked.inside "body" (data.bind read) with issues | record
    · exact ⟨Reply.ofIssues_of_forall, Reply.ofIssues_of_not_forall⟩
    · dsimp only
      rcases hf : perform record with f | tree
      · obtain ⟨hreported, hplain⟩ := (hperform record).of_eq_error hf
        simp only [hreported, if_true]
        exact ⟨fun _ => Reply.refusal_of_isPlain 400 hplain, fun h => absurd trivial h⟩
      · exact ⟨fun _ => rfl, fun h => absurd trivial h⟩

/-- The issues of a body that is missing or no JSON text repeat nothing. -/
lemma isWritable_of_bodyData {contentType body : String} {issues : List Issue}
    (h : bodyData contentType body = some (.error issues)) :
    ∀ issue ∈ issues, issue.data.IsWritable := by
  have hnull : Json.null.IsWritable := by decide
  have hrefused {kind : IssueKind} (hk : (Checked.refuse kind .null : Checked Json) =
      .error issues) : ∀ issue ∈ issues, issue.data.IsWritable := by
    obtain rfl := Except.error.inj hk
    exact List.forall_mem_singleton.mpr hnull
  rw [bodyData] at h
  split at h
  · exact hrefused (Option.some.inj h)
  · split at h
    · exact nomatch h
    · split at h
      · exact nomatch h
      · split at h
        · exact nomatch h
        · exact hrefused (Option.some.inj h)
        · exact nomatch h
        · exact nomatch h

lemma isWritable_of_data {β : Type} {read : Json → Checked β} {data : Json}
    (hread : (read data).Blames data) (perform : β → Except (Fault Number) Json)
    (hdata : data.IsWritable) : (Verdict.of read perform (some (.ok data))).IsWritable := by
  rcases hrecord : read data with issues | record
  · rw [Verdict.of_eq_invalid hrecord]
    refine List.forall_mem_map.mpr fun issue hissue => ?_
    exact hdata.within (hread.of_eq_error hrecord issue hissue)
  · rw [Verdict.of_of_ok hrecord]
    cases perform record <;> trivial

lemma isWritable_of {β : Type} {read : Json → Checked β}
    (hread : ∀ data, (read data).Blames data) (perform : β → Except (Fault Number) Json)
    {contentType body : String}
    (hdata : ∀ data, bodyData contentType body = some (.ok data) → data.IsWritable) :
    (Verdict.of read perform (bodyData contentType body)).IsWritable := by
  rcases h : bodyData contentType body with - | issues | data
  · trivial
  · exact List.forall_mem_map.mpr (isWritable_of_bodyData h)
  · exact isWritable_of_data (hread data) perform (hdata data h)

/-- What every route with a body does: it keeps the promise of its verdict on writable data. -/
lemma keeps_reply {request : HttpRequest} {v : Verdict}
    (h : request.verdict? machineTables = some v) :
    Keeps v (reply machineTables request) ∧
      ((∀ data, bodyData request.contentType request.body = some (.ok data) → data.IsWritable) →
        v.IsWritable) := by
  rw [HttpRequest.verdict?] at h
  rw [reply]
  split at h
  · next route hroute =>
    rw [hroute]
    cases route with
    | convert =>
      obtain rfl := Option.some.inj h
      refine ⟨keeps_replyToBody _ (fun request => ?_) _ _,
        isWritable_of Request.blames_conversion _⟩
      exact (endsAnswerable_convertQuantity request).map fun _ _ => trivial
    | calculate =>
      obtain rfl := Option.some.inj h
      refine ⟨keeps_replyToBody _ (fun request => ?_) _ _,
        isWritable_of Request.blames_calculation _⟩
      exact (endsAnswerable_calculate request).map fun _ _ => trivial
    | dynamicPressure =>
      obtain rfl := Option.some.inj h
      refine ⟨keeps_replyToBody _ (fun request => ?_) _ _,
        isWritable_of Request.blames_dynamicPressure _⟩
      exact (endsAnswerable_answerPressure request).map fun _ _ => trivial
    | stallSpeed =>
      obtain rfl := Option.some.inj h
      refine ⟨keeps_replyToBody _ (fun request => ?_) _ _,
        isWritable_of Request.blames_stallSpeed _⟩
      exact (endsAnswerable_answerStallSpeed request).map fun _ _ => trivial
    | _ => exact nomatch h
  · exact nomatch h

/--
The reply to a body is the one that the error mapping promises, unless the data is invalid and an
issue repeats a number without a numeral or a surrogate; writable data has no such issue. In no case
does a fault of the core leave a request without a reply.
-/
theorem reply_eq_promise_iff {request : HttpRequest} {v : Verdict}
    (h : request.verdict? machineTables = some v) :
    (reply machineTables request = v.promise ↔ v.IsWritable) ∧
    ((∀ data, bodyData request.contentType request.body = some (.ok data) → data.IsWritable) →
      v.IsWritable) ∧
    ∀ f, reply machineTables request ≠ .crash (.fault f) := by
  obtain ⟨hkeeps, hdata⟩ := keeps_reply h
  have hcrash (cause : Breakdown) : v.promise ≠ .crash cause := by
    cases v <;> exact nofun
  by_cases hwritable : v.IsWritable
  · have hreply := hkeeps.promised hwritable
    exact ⟨iff_of_true hreply hwritable, hdata, fun f hf => hcrash _ (hreply ▸ hf)⟩
  · have hreply := hkeeps.crashed hwritable
    refine ⟨iff_of_false (fun hpromise => ?_) hwritable, hdata, fun f hf => ?_⟩
    · rw [hpromise] at hreply
      exact hreply.elim (hcrash _) (hcrash _)
    · rw [hf] at hreply
      exact hreply.elim nofun nofun

/-- A JSON text that is posted to a path. -/
def HttpRequest.post (path body : String) : HttpRequest :=
  ⟨"POST", path, "", "application/json", body⟩

/-- A dynamic pressure at something that is no velocity. -/
def atSecond : HttpRequest :=
  .post "/aero/dynamic-pressure" "\x7b\"velocity\":\x7b\"value\":1,\"unit\":\"s\"\x7d\x7d"

theorem reply_eq_promise_iff_atSecond :
    ∃ v, atSecond.verdict? machineTables = some v ∧ v.promise.status = 400 ∧
      reply machineTables atSecond = v.promise := by
  have hstatus : (atSecond.verdict? machineTables).map (fun v => v.promise.status) =
      some 400 := by decide +kernel
  obtain ⟨v, hv, hpromise⟩ := Option.map_eq_some_iff.mp hstatus
  have hwritable : v.IsWritable := by
    cases v with
    | invalid => exact nomatch hpromise
    | _ => trivial
  exact ⟨v, hv, hpromise, (reply_eq_promise_iff hv).1.mpr hwritable⟩

/-- A conversion to something infinite. -/
def towardsInfinity : HttpRequest :=
  .post "/convert"
    "\x7b\"quantity\":\x7b\"value\":1,\"unit\":\"ft\"\x7d,\"to_unit\":-Infinity\x7d"

/-- Its data is invalid, and should be answered so. -/
theorem reply_ne_promise_towardsInfinity :
    ∃ v, towardsInfinity.verdict? machineTables = some v ∧ v.promise.status = 422 ∧
      (reply machineTables towardsInfinity).status = 500 := by
  have hstatus : (towardsInfinity.verdict? machineTables).map (fun v => v.promise.status) =
      some 422 ∧ (reply machineTables towardsInfinity).status = 500 := by decide +kernel
  obtain ⟨v, hv, hpromise⟩ := Option.map_eq_some_iff.mp hstatus.1
  exact ⟨v, hv, hpromise, hstatus.2⟩

end FlightUnits.Service
