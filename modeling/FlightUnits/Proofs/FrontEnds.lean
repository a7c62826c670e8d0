import FlightUnits.Proofs.PostedTasks

/-!
# Agreement of the front ends

What one of the front ends prints for a task the other one answers when the same is posted. They
agree on results, and on refusals with their texts, as long as there is no surrogate in the name of
a unit.
-/

namespace FlightUnits

open Standard CommandLine Service Text

/-- An outcome of the program and a reply of the service that tell the same. -/
structure Agrees (log : String) (o : Outcome) (r : Reply) : Prop where
  returns_zero_iff : o.ending = .returned 0 ↔ r.status = 200
  returns_one_iff : o.ending = .returned 1 ↔ r.status = 400 ∨ r.status = 422
  prints : r.status = 200 → ∃ tree, r = .json 200 tree ∧ o.output = tree.indented 0 ++ "\n"
  reports : r.status = 400 → ∃ detail, r = .json 400 (.object [("detail", .text detail)]) ∧
    o.errors = log ++ "Error: " ++ detail ++ "\n"

/-- What a task shows agrees with a promise that is kept. -/
lemma Shows.agrees_iff {v : Verdict} {task : Task} {r : Reply}
    (hshows : Shows v (task.run machineTables)) (hkeeps : Keeps v r) (log : String) :
    (Agrees log (task.outcome machineTables log) r ↔ v.IsWritable) ∧
      (¬ v.IsWritable →
        (task.outcome machineTables log).ending = .returned 1 ∧ r.status = 500) := by
  rw [Task.outcome]
  generalize task.run machineTables = result at hshows
  cases hshows with
  | accepted tree =>
    obtain rfl : r = .json 200 tree := hkeeps.promised trivial
    refine ⟨iff_of_true ⟨?_, ?_, ?_, ?_⟩ trivial, fun h => absurd trivial h⟩
    · exact iff_of_true rfl rfl
    · exact iff_of_false (by rintro ⟨⟩) (by rintro (h | h) <;> cases h)
    · exact fun _ => ⟨tree, rfl, rfl⟩
    · rintro ⟨⟩
  | failed f =>
    obtain rfl : r = .json 400 (.object [("detail", .text f.message)]) := hkeeps.promised trivial
    refine ⟨iff_of_true ⟨?_, ?_, ?_, ?_⟩ trivial, fun h => absurd trivial h⟩
    · exact iff_of_false (by rintro ⟨⟩) (by rintro ⟨⟩)
    · exact iff_of_true rfl (.inl rfl)
    · rintro ⟨⟩
    · exact fun _ => ⟨f.message, rfl, rfl⟩
  | invalid issues message =>
    by_cases hwritable : (Verdict.invalid issues).IsWritable
    · obtain rfl : r = .invalid issues := hkeeps.promised hwritable
      refine ⟨iff_of_true ⟨?_, ?_, ?_, ?_⟩ hwritable, fun h => absurd hwritable h⟩
      · exact iff_of_false (by rintro ⟨⟩) (by rintro ⟨⟩)
      · exact iff_of_true rfl (.inr rfl)
      · rintro ⟨⟩
      · rintro ⟨⟩
    · have hstatus : r.status = 500 := by
        rcases hkeeps.crashed hwritable with rfl | rfl <;> rfl
      refine ⟨iff_of_false (fun h => ?_) hwritable, fun _ => ⟨rfl, hstatus⟩⟩
      have hreply := h.returns_one_iff.mp rfl
      rw [hstatus] at hreply
      exact absurd hreply (by decide)

/--
Words that ask for a task and a request that posts the same data agree, unless a word for a unit
holds a surrogate. Then the program returns one, and the service breaks down over the refusal.
-/
theorem run_agrees_reply_iff {words : List String} {s : Invocation} {task : Task}
    {request : HttpRequest} {data : Json} (hread : Invocation.read words = .ok s)
    (htask : s.task = some task) (hposted : task.IsPostedAs request.path data)
    (hmethod : request.method = "POST")
    (hbody : bodyData request.contentType request.body = some (.ok data)) :
    (Agrees (Help.lines (s.logged task)) (run machineTables words) (reply machineTables request) ↔
      ∀ w ∈ task.unitWords, IsPlain w) ∧
    ((∃ w ∈ task.unitWords, ¬ IsPlain w) → (run machineTables words).ending = .returned 1 ∧
      (reply machineTables request).status = 500) := by
  obtain ⟨route, v, hroute, hverdict, hshows, hwritable⟩ := shows_run hposted
  have hv : request.verdict? machineTables = some v := by
    rw [HttpRequest.verdict?, hmethod, hroute, hbody]
    exact hverdict
  obtain ⟨hagrees, hbreaks⟩ :=
    hshows.agrees_iff (keeps_reply hv).1 (Help.lines (s.logged task))
  rw [run_eq_outcome hread htask, hagrees, hwritable]
  refine ⟨Iff.rfl, ?_⟩
  rintro ⟨w, hw, hplain⟩
  exact hbreaks fun h => hplain (hwritable.mp h w hw)

deriving instance DecidableEq for UnitsSettings, ConvertSettings, WrittenOperand, CalculateSettings

deriving instance DecidableEq for PressureSettings

deriving instance DecidableEq for CommandLine.Task

deriving instance DecidableEq for Invocation

/-- Ten metres per second in another unit, as words. -/
def speedWords (target : String) : List String := ["convert", "10", "ms", target, "--json"]

/-- Ten metres per second in another unit, as a request; the unit is written as in a JSON text. -/
def speedRequest (target : String) : HttpRequest :=
  .post "/convert" ("\x7b\"quantity\":\x7b\"value\":10,\"unit\":\"ms\"\x7d,\"to_unit\":\"" ++
    target ++ "\"\x7d")

/-- The settings that the words make. -/
def speedInvocation (target : String) : Invocation :=
  ⟨false, some (.convert ⟨.ofInt 10, some "ms", some target, true⟩), []⟩

/-- Whether data is what the request posts. -/
def isSpeedData (target : String) : Json → Bool
  | .object [("quantity", .object [("value", .int 10), ("unit", .text "ms")]),
      ("to_unit", .text unit)] => unit == target
  | _ => false

lemma exists_speedData {target escaped : String}
    (h : ((bodyData "application/json" (speedRequest escaped).body).bind Except.toOption).any
      (isSpeedData target)) :
    ∃ data, bodyData "application/json" (speedRequest escaped).body = some (.ok data) ∧
      (CommandLine.Task.convert ⟨.ofInt 10, some "ms", some target, true⟩).IsPostedAs "/convert"
        data := by
  have hfinite : (Binary64.ofInt 10).isFinite := by decide +kernel
  have hten : (Json.int 10).StandsFor (.ofInt 10) := by
    refine ⟨?_, hfinite⟩
    rw [Request.real, if_pos hfinite]
  rcases hbody : bodyData "application/json" (speedRequest escaped).body with - | issues | data
  · rw [hbody] at h
    cases h
  · rw [hbody] at h
    cases h
  · rw [hbody] at h
    change isSpeedData target data = true at h
    rw [isSpeedData.eq_def] at h
    split at h
    · next unit =>
      obtain rfl : unit = target := beq_iff_eq.mp h
      exact ⟨_, rfl, .convert hten⟩
    · cases h

theorem run_agrees_reply_iff_kilometresPerHour :
    Agrees "" (run machineTables (speedWords "kph"))
      (reply machineTables (speedRequest "kph")) := by
  have hspeed : (Invocation.read (speedWords "kph")).toOption = some (speedInvocation "kph") ∧
      ((bodyData "application/json" (speedRequest "kph").body).bind Except.toOption).any
        (isSpeedData "kph") := by decide +kernel
  have hread := eq_ok_of_toOption hspeed.1
  obtain ⟨data, hbody, hposted⟩ := exists_speedData hspeed.2
  have hplain : ∀ w ∈ ["ms", "kph"], IsPlain w := by decide
  exact (run_agrees_reply_iff hread rfl hposted rfl hbody).1.mpr hplain

/-- A surrogate that is no half of a pair. -/
def loneSurrogate : String := String.ofList [charOfCode 0xdcff]

/-- The front ends disagree about a unit whose name is a surrogate. -/
theorem not_agrees_loneSurrogate :
    ∃ s task data, Invocation.read (speedWords loneSurrogate) = .ok s ∧ s.task = some task ∧
      task.IsPostedAs (speedRequest "\\udcff").path data ∧
      bodyData "application/json" (speedRequest "\\udcff").body = some (.ok data) ∧
      (run machineTables (speedWords loneSurrogate)).ending = .returned 1 ∧
      (reply machineTables (speedRequest "\\udcff")).status = 500 := by
  have hspeed : (Invocation.read (speedWords loneSurrogate)).toOption =
        some (speedInvocation loneSurrogate) ∧
      ((bodyData "application/json" (speedRequest "\\udcff").body).bind Except.toOption).any
        (isSpeedData loneSurrogate) ∧
      (run machineTables (speedWords loneSurrogate)).ending = .returned 1 ∧
      (reply machineTables (speedRequest "\\udcff")).status = 500 := by decide +kernel
  obtain ⟨hwords, hdata, hending, hstatus⟩ := hspeed
  have hread := eq_ok_of_toOption hwords
  obtain ⟨data, hbody, hposted⟩ := exists_speedData hdata
  exact ⟨_, _, data, hread, rfl, hposted, hbody, hending, hstatus⟩

end FlightUnits
