import FlightUnits.Proofs.CommandLineEndings
import FlightUnits.Proofs.ErrorMapping
import FlightUnits.Proofs.Inquiries

/-!
# Finite answers of the front ends

A request to the service and a task of the command line make an inquiry, if nothing is wrong with
them. Whatever one of the front ends gives as a successful answer is the text of the answer to the
inquiry that was made. So the text can be used as an input just when the result is finite.
-/

namespace FlightUnits

open Standard CommandLine Service

section FrontEnds

variable {result : Operand Binary64} {tree : Json} {β : Type}

/-- The inquiry that data makes, if a route finds nothing wrong with it. -/
def Service.Route.inquiry? (data : Json) : Route → Option Inquiry
  | .convert => (Request.conversion data).toOption.map .conversion
  | .calculate => (Request.calculation data).toOption.map .calculation
  | .dynamicPressure => (Request.dynamicPressure data).toOption.map .pressure
  | .stallSpeed => (Request.stallSpeed data).toOption.map .stallSpeed
  | .health | .units | .unit _ | .dimensions => none

/-- The inquiry that a request to the service makes. -/
def Service.HttpRequest.inquiry? (request : HttpRequest) : Option Inquiry :=
  match Destination.of request.method request.path,
    bodyData request.contentType request.body with
  | .reached route, some (.ok data) => route.inquiry? data
  | _, _ => none

/-- The inquiry that a task makes. -/
def CommandLine.Task.inquiry? : Task → Option Inquiry
  | .convert s => s.request.toOption.map .conversion
  | .calculate s => s.request.toOption.map .calculation
  | .dynamicPressure s => s.request.toOption.map .pressure
  | .units _ | .serve _ => none

/-- Whether a task prints its result as JSON. -/
def CommandLine.Task.printsJson : Task → Bool
  | .convert s => s.json
  | .calculate s => s.json
  | .dynamicPressure s => s.json
  | .units _ | .serve _ => false

/-- A successful answer of the service or of the program: the inquiry that was made, and a text. -/
inductive Succeeds : Option Inquiry → String → Prop where
  | replied {request : HttpRequest} {v : Verdict} {tree : Json}
    (hv : request.verdict? machineTables = some v)
    (h : reply machineTables request = .json 200 tree) : Succeeds request.inquiry? tree.compact
  | printed {words : List String} {s : Invocation} {task : Task}
    (hread : Invocation.read words = .ok s) (htask : s.task = some task)
    (hjson : task.printsJson) (h : (run machineTables words).ending = .returned 0) :
    Succeeds task.inquiry? (run machineTables words).output

lemma Service.Verdict.of_eq_accepted {read : Json → Checked β}
    {perform : β → Except (Fault Number) Json} {body : Option (Checked Json)}
    (h : Verdict.of read perform body = .accepted tree) :
    ∃ data x, body = some (.ok data) ∧ read data = .ok x ∧ perform x = .ok tree := by
  rcases body with - | issues | data
  · exact nomatch h
  · exact nomatch h
  · rcases hx : read data with issues | x
    · rw [Verdict.of_eq_invalid hx] at h
      exact nomatch h
    · rw [Verdict.of_of_ok hx] at h
      rcases htree : perform x with f | t
      · rw [htree] at h
        exact nomatch h
      · rw [htree] at h
        obtain rfl := Verdict.accepted.inj h
        exact ⟨data, x, rfl, hx, htree⟩

lemma Service.Keeps.eq_accepted {v : Verdict} {r : Reply} (hkeeps : Keeps v r)
    (h : r = .json 200 tree) : v = .accepted tree := by
  subst h
  by_cases hwritable : v.IsWritable
  · have hpromise := hkeeps.promised hwritable
    cases v with
    | accepted t => rw [(Reply.json.inj hpromise).2]
    | failed f => exact absurd (Reply.json.inj hpromise).1 (by decide)
    | unread => exact absurd (Reply.json.inj hpromise).1 (by decide)
    | invalid issues => exact nomatch hpromise
  · rcases hkeeps.crashed hwritable with hcrash | hcrash <;> exact nomatch hcrash

namespace Inquiry

/-- An accepted body tells the answer to the inquiry that its record makes. -/
lemma of_accepted (ask : β → Inquiry) {read : Json → Checked β}
    {perform : β → Except (Fault Number) Json} (hask : ∀ x, perform x = (ask x).answer.map Prod.snd)
    {body : Option (Checked Json)} (h : Verdict.of read perform body = .accepted tree) :
    ∃ data inquiry result, body = some (.ok data) ∧ (read data).toOption.map ask = some inquiry ∧
      inquiry.answer = .ok (result, tree) := by
  obtain ⟨data, x, hbody, hx, htree⟩ := Verdict.of_eq_accepted h
  rw [hask] at htree
  obtain ⟨⟨result, t⟩, hanswer, rfl⟩ := map_eq_ok_iff.mp htree
  refine ⟨data, ask x, result, hbody, ?_, hanswer⟩
  rw [hx]
  rfl

lemma of_verdict? {request : HttpRequest}
    (h : request.verdict? machineTables = some (.accepted tree)) :
    ∃ inquiry result, request.inquiry? = some inquiry ∧ inquiry.answer = .ok (result, tree) := by
  rw [HttpRequest.verdict?] at h
  split at h
  · next route hroute =>
    have hmap {γ : Type} {answer : Except (Fault Number) γ} (encode : γ → Json)
        (result : γ → Operand Binary64) :
        answer.map encode = (answer.map fun r => (result r, encode r)).map Prod.snd := by
      cases answer <;> rfl
    suffices hdata : ∃ data inquiry result,
        bodyData request.contentType request.body = some (.ok data) ∧
          route.inquiry? data = some inquiry ∧ inquiry.answer = .ok (result, tree) by
      obtain ⟨data, inquiry, result, hbody, hinquiry, hanswer⟩ := hdata
      refine ⟨inquiry, result, ?_, hanswer⟩
      rw [HttpRequest.inquiry?, hroute, hbody]
      exact hinquiry
    cases route with
    | convert => exact of_accepted .conversion (fun _ => hmap _ _) (Option.some.inj h)
    | calculate => exact of_accepted .calculation (fun _ => hmap _ _) (Option.some.inj h)
    | dynamicPressure => exact of_accepted .pressure (fun _ => hmap _ _) (Option.some.inj h)
    | stallSpeed => exact of_accepted .stallSpeed (fun _ => hmap _ _) (Option.some.inj h)
    | _ => cases h
  · cases h

/-- What a task prints as JSON is the answer to the inquiry that it makes. -/
lemma of_shown (ask : β → Inquiry) {γ : Type} {task : Task} {request : Except Trouble β}
    {answer : β → Except (Fault Number) γ} {reported : FaultKind → Bool} {encode : γ → Json}
    {plain : γ → String} {told : γ → Operand Binary64} {output : String}
    (hask : ∀ x, (ask x).answer = (answer x).map fun r => (told r, encode r))
    (htask : ∀ x, request = .ok x → task.inquiry? = some (ask x))
    (h : (do
      let x ← request
      let r ← report reported (answer x)
      return shown true (encode r) (plain r)) = .ok output) :
    ∃ inquiry result tree, task.inquiry? = some inquiry ∧ inquiry.answer = .ok (result, tree) ∧
      output = tree.indented 0 ++ "\n" := by
  obtain ⟨x, hx, h⟩ := bind_eq_ok_iff.mp h
  obtain ⟨r, hr, h⟩ := bind_eq_ok_iff.mp h
  have hanswer : (ask x).answer = .ok (told r, encode r) := by
    rw [hask, mapError_eq_ok_iff.mp hr]
    rfl
  exact ⟨ask x, told r, encode r, htask x hx, hanswer, (Except.ok.inj h).symm⟩

lemma of_run {task : Task} {output : String} (hjson : task.printsJson)
    (h : task.run machineTables = .ok output) :
    ∃ inquiry result tree, task.inquiry? = some inquiry ∧ inquiry.answer = .ok (result, tree) ∧
      output = tree.indented 0 ++ "\n" := by
  cases task with
  | convert s =>
    have hs : s.json = true := hjson
    rw [Task.run, runConvert, hs] at h
    refine of_shown .conversion (fun _ => rfl) (fun x hx => ?_) h
    rw [Task.inquiry?, reportRejection_eq_ok_iff.mp hx]
    rfl
  | calculate s =>
    have hs : s.json = true := hjson
    rw [Task.run, runCalculate, hs] at h
    refine of_shown .calculation (fun _ => rfl) (fun x hx => ?_) h
    rw [Task.inquiry?, reportRejection_eq_ok_iff.mp hx]
    rfl
  | dynamicPressure s =>
    have hs : s.json = true := hjson
    rw [Task.run, runPressure, hs] at h
    refine of_shown .pressure (fun _ => rfl) (fun x hx => ?_) h
    rw [Task.inquiry?, hx]
    rfl
  | units | serve => cases hjson

lemma exists_of_succeeds {asked : Option Inquiry} {text : String} (h : Succeeds asked text) :
    ∃ inquiry result tree, asked = some inquiry ∧ inquiry.answer = .ok (result, tree) ∧
      (text = tree.compact ∨ text = tree.indented 0 ++ "\n") := by
  cases h with
  | @replied request v tree hv h =>
    obtain rfl := Keeps.eq_accepted (keeps_reply hv).1 h
    obtain ⟨inquiry, result, hinquiry, hanswer⟩ := of_verdict? hv
    exact ⟨inquiry, result, tree, hinquiry, hanswer, .inl rfl⟩
  | @printed words s task hread htask hjson h =>
    rw [run_eq_outcome hread htask, Task.outcome] at h ⊢
    rcases htask : task.run machineTables with trouble | output
    · rw [htask] at h
      cases trouble <;> cases h
    · obtain ⟨inquiry, result, tree, hinquiry, hanswer, houtput⟩ := of_run hjson htask
      exact ⟨inquiry, result, tree, hinquiry, hanswer, .inr houtput⟩

end Inquiry

/--
A successful answer of the service or of the program tells the result of the inquiry that was made.
It can be used as an operand exactly when that result is finite, which it is for every calculation
and for every other inquiry about moderate numbers.
-/
theorem isUsable_iff_of_succeeds {asked : Option Inquiry} {text : String}
    (h : Succeeds asked text) :
    ∃ inquiry result tree, asked = some inquiry ∧ inquiry.answer = .ok (result, tree) ∧
      (text = tree.asPrinted.compact ∨ text = tree.asPrinted.indented 0 ++ "\n") ∧
      (IsUsable result tree ↔ result.value.isFinite) ∧
      (inquiry.IsModerate → result.value.isFinite) := by
  obtain ⟨inquiry, result, tree, hasked, hanswer, htext⟩ := Inquiry.exists_of_succeeds h
  rw [← tree.compact_asPrinted, ← tree.indented_asPrinted 0] at htext
  exact ⟨inquiry, result, tree, hasked, hanswer, htext, Inquiry.isUsable_iff hanswer,
    Inquiry.isFinite_of_isModerate hanswer⟩

/-- A length in feet, to be converted to inches. -/
def lengthRequest (numeral : String) : HttpRequest :=
  .post "/convert" ("\x7b\"quantity\":\x7b\"value\":" ++ numeral ++
    ",\"unit\":\"ft\"\x7d,\"to_unit\":\"in\"\x7d")

lemma exists_eq_of_status {r : Reply} (h : r.status = 200) : ∃ tree, r = .json 200 tree := by
  cases r with
  | json status tree =>
    obtain rfl : status = 200 := h
    exact ⟨tree, rfl⟩
  | redirection | invalid | crash => exact nomatch h

lemma succeeds_of_status {request : HttpRequest}
    (hverdict : (request.verdict? machineTables).isSome)
    (hstatus : (reply machineTables request).status = 200) :
    ∃ text, Succeeds request.inquiry? text := by
  obtain ⟨v, hv⟩ := Option.isSome_iff_exists.mp hverdict
  obtain ⟨tree, htree⟩ := exists_eq_of_status hstatus
  exact ⟨tree.compact, .replied hv htree⟩

theorem isUsable_iff_of_succeeds_oneFoot :
    ∃ text inquiry result tree, Succeeds (lengthRequest "1").inquiry? text ∧
      (lengthRequest "1").inquiry? = some inquiry ∧ inquiry.answer = .ok (result, tree) ∧
      inquiry.IsModerate ∧ IsUsable result tree := by
  have hreply : ((lengthRequest "1").verdict? machineTables).isSome ∧
      (reply machineTables (lengthRequest "1")).status = 200 ∧
      (lengthRequest "1").inquiry?.all fun inquiry => inquiry.IsModerate := by decide +kernel
  obtain ⟨hverdict, hstatus, hmoderate⟩ := hreply
  obtain ⟨text, hsucceeds⟩ := succeeds_of_status hverdict hstatus
  obtain ⟨inquiry, result, tree, hasked, hanswer, -, husable, hfinite⟩ :=
    isUsable_iff_of_succeeds hsucceeds
  rw [hasked] at hmoderate
  have hmoderate' : inquiry.IsModerate := of_decide_eq_true hmoderate
  exact ⟨text, inquiry, result, tree, hsucceeds, hasked, hanswer, hmoderate',
    husable.mpr (hfinite hmoderate')⟩

/-- A length of `1e308` feet is too long to be told in inches, but not refused. -/
theorem not_isUsable_longLength :
    ∃ text inquiry result tree, Succeeds (lengthRequest "1e308").inquiry? text ∧
      (lengthRequest "1e308").inquiry? = some inquiry ∧ inquiry.answer = .ok (result, tree) ∧
      ¬ result.value.isFinite ∧ ¬ IsUsable result tree := by
  have hreply : ((lengthRequest "1e308").verdict? machineTables).isSome ∧
      (reply machineTables (lengthRequest "1e308")).status = 200 ∧
      ((lengthRequest "1e308").inquiry?.bind fun inquiry => inquiry.answer.toOption).map
        (fun answer => answer.1.value) = some (.infinite false) := by decide +kernel
  obtain ⟨hverdict, hstatus, hvalue⟩ := hreply
  obtain ⟨text, hsucceeds⟩ := succeeds_of_status hverdict hstatus
  obtain ⟨inquiry, result, tree, hasked, hanswer, -⟩ := Inquiry.exists_of_succeeds hsucceeds
  have hinfinite : ¬ result.value.isFinite := by
    rw [hasked, Option.bind_some, hanswer] at hvalue
    rw [show result.value = .infinite false from Option.some.inj hvalue]
    exact Bool.false_ne_true
  exact ⟨text, inquiry, result, tree, hsucceeds, hasked, hanswer, hinfinite, fun husable =>
    hinfinite ((Inquiry.isUsable_iff hanswer).mp husable)⟩

end FrontEnds

end FlightUnits
