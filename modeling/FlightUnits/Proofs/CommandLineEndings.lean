import FlightUnits.CommandLine.Run
import FlightUnits.Proofs.AnswerFaults
import FlightUnits.Proofs.ShownTexts
import FlightUnits.Proofs.TableCheck

/-!
# How runs of the program end

A task that was read has an output or a message, because each command reports all faults that its
answer can have; and what is shown instead of a task is a help text or the version. So a run returns
zero or one, or leaves with zero or two, and nothing is printed when it fails.
-/

namespace FlightUnits.CommandLine

open Standard

/-! ### Tasks -/

section Tasks

variable {β γ : Type}

/-- Whatever goes wrong is reported. -/
abbrev Reports (s : Except Trouble β) : Prop :=
  Ends (fun _ => True) (fun trouble => ∃ message, trouble = .reported message) s

lemma reports_ok (x : β) : Reports (.ok x) := .ok trivial

lemma Reports.bind {s : Except Trouble β} {f : β → Except Trouble γ} (hs : Reports s)
    (hf : ∀ x, Reports (f x)) : Reports (s >>= f) :=
  Ends.bind hs fun x _ => hf x

lemma reports_report {Q : β → Prop} {faults reported : FaultKind → Bool}
    {s : Except (Fault Number) β} (hs : Ends Q (Fault.IsAnswerable faults) s)
    (hreported : ∀ k, faults k → reported k) : Reports (report reported s) :=
  (hs.mono (fun _ _ => trivial) fun _ h => h).mapError fun f hf =>
    ⟨f.message, if_pos (hreported f.kind hf.1)⟩

lemma reports_reportRejection (s : Except Rejection β) : Reports (reportRejection s) := by
  cases s with
  | ok => exact reports_ok _
  | error r => exact .error ⟨r.message, rfl⟩

lemma reportRejection_eq_ok_iff {s : Except Rejection β} {x : β} :
    reportRejection s = .ok x ↔ s = .ok x := mapError_eq_ok_iff

lemma isValueFault_of_isUnitFault (k : FaultKind) (h : k.isUnitFault) : k.isValueFault := by
  rw [FaultKind.isValueFault, h, Bool.true_or]

lemma reports_quantityOfWord (x : Binary64) (word : Option String) :
    Reports (quantityOfWord x word) := by
  have hresolve (tag : UnitTag) : Reports (report FaultKind.isValueFault
      ((tag.resolve "").map fun unit => (⟨x, unit⟩ : Quantity Binary64))) := by
    cases tag with
    | known u => exact reports_ok _
    | foreign text => exact .error ⟨_, rfl⟩
  cases word with
  | none => exact hresolve (.foreign "[]")
  | some word => exact hresolve (.ofText word)

lemma reports_altitudeOfWords (words : String × String) : Reports (altitudeOfWords words) := by
  rw [altitudeOfWords]
  split
  · exact reports_quantityOfWord _ _
  · exact .error ⟨_, rfl⟩

lemma PressureSettings.reports_request (s : PressureSettings) : Reports s.request := by
  refine (reports_quantityOfWord s.value s.unit).bind fun velocity => ?_
  split
  · exact reports_ok _
  · next words _ => exact (reports_altitudeOfWords words).bind fun _ => reports_ok _

/-- Every task has an output or a message. -/
lemma Task.reports_run (task : Task) : Reports (task.run machineTables) := by
  cases task with
  | units s =>
    obtain ⟨infos, hinfos⟩ := listUnits_of_check (check_units (α := Number)) s.dimension
    have hlisted : report (fun _ => false) (listUnits machineTables.units s.dimension) =
        .ok infos := by
      rw [report, mapError_eq_ok_iff]
      exact hinfos
    rw [Task.run, runUnits, hlisted]
    exact reports_ok _
  | convert s =>
    refine (reports_reportRejection s.request).bind fun request => Reports.bind ?_ fun _ =>
      reports_ok _
    exact reports_report (endsAnswerable_convertQuantity request) isValueFault_of_isUnitFault
  | calculate s =>
    refine (reports_reportRejection s.request).bind fun request => Reports.bind ?_ fun _ =>
      reports_ok _
    exact reports_report (endsAnswerable_calculate request) fun _ h => h
  | dynamicPressure s =>
    refine s.reports_request.bind fun request => Reports.bind ?_ fun _ => reports_ok _
    exact reports_report (endsAnswerable_answerPressure request) fun _ h => h
  | serve s => exact reports_ok _

end Tasks

/-! ### Runs -/

/--
An outcome of one of four kinds: status zero; status one with no output and with a line for the
error after those that were logged; a text that was asked for; or a complaint about the words.
-/
inductive Outcome.IsOrderly : Outcome → Prop where
  | succeeded (output errors : String) (served : Option ServeSettings) :
    IsOrderly ⟨.returned 0, output, errors, served⟩
  | failed (logged : List String) (message : String) :
    IsOrderly ⟨.returned 1, "", Help.lines logged ++ "Error: " ++ message ++ "\n", none⟩
  | shown {text : String} (h : text ∈ Help.texts) : IsOrderly ⟨.exited 0, text, "", none⟩
  | refused (program message : String) :
    IsOrderly ⟨.exited 2, "", program ++ ": error: " ++ message ++ "\n", none⟩

lemma Task.isOrderly_outcome (task : Task) (logged : List String) :
    (task.outcome machineTables (Help.lines logged)).IsOrderly := by
  rw [Task.outcome]
  rcases h : task.run machineTables with trouble | output
  · obtain ⟨message, rfl⟩ := task.reports_run.of_eq_error h
    exact .failed logged message
  · exact .succeeded _ _ _

/-- What is logged before the outcome of an invocation; without `verbose` it is nothing. -/
def Invocation.logged (s : Invocation) (task : Task) : List String :=
  if s.verbose then (task.trace machineTables).map TraceEntry.text else []

lemma Invocation.outcome_eq {s : Invocation} {task : Task} (h : s.task = some task) :
    s.outcome machineTables = task.outcome machineTables (Help.lines (s.logged task)) := by
  have hlog (trace : List TraceEntry) : String.join (trace.map fun entry => entry.text ++ "\n") =
      Help.lines (trace.map TraceEntry.text) := by
    rw [Help.lines, List.map_map]
    rfl
  rw [Invocation.outcome, h]
  dsimp only
  rw [hlog, logged]
  cases s.verbose <;> rfl

lemma run_eq_outcome {words : List String} {s : Invocation} {task : Task}
    (hread : Invocation.read words = .ok s) (htask : s.task = some task) :
    run machineTables words = task.outcome machineTables (Help.lines (s.logged task)) := by
  rw [run, hread]
  exact s.outcome_eq htask

lemma Invocation.isOrderly_outcome (s : Invocation) : (s.outcome machineTables).IsOrderly := by
  rcases h : s.task with - | task
  · rw [Invocation.outcome, h]
    exact .succeeded _ _ _
  · rw [s.outcome_eq h]
    exact task.isOrderly_outcome _

/-- Whatever its words are, a run of the program ends in order and never by a crash. -/
theorem run_isOrderly (words : List String) : (run machineTables words).IsOrderly := by
  rw [run]
  rcases h : Invocation.read words with halt | s
  · have hshown := (reads_invocation words).of_eq_error h
    cases halt with
    | shown text => exact .shown hshown
    | refused program message => exact .refused program message
  · exact s.isOrderly_outcome

end FlightUnits.CommandLine
