import FlightUnits.Proofs.CommandLineEndings
import FlightUnits.Proofs.PrintedOperands

/-!
# Negations of printed quantities

What one run of the program prints is an operand of the next one. Negating a printed quantity works
if it has no minus sign, but then the quantity that is printed has one. After the divider it always
works, and two negations print the first line again.
-/

namespace FlightUnits

open Standard

namespace CommandLine

variable {q : Quantity Binary64}

/-! ### Runs of a negation -/

lemma run_negation {words : List String}
    (hread : Invocation.read words =
      .ok ⟨false, some (.calculate (negationSettings (.tagged q.value q.unit.id))), []⟩)
    (hq : q.value.isFinite) :
    run machineTables words =
      ⟨.returned 0, quantityText (q.map Binary64.neg) ++ "\n", "", none⟩ := by
  have hfinite : (Operand.quantity (q.map Binary64.neg)).value.isFinite := Binary64.isFinite_neg hq
  have hrequest : (negationSettings (.tagged q.value q.unit.id)).request =
      .ok (.negate (.quantity q)) :=
    Request.calculationRecord_eq_ok (x := .quantity q) (y := none) rfl rfl rfl rfl
  have hevaluate : (CalculationRequest.negate (.quantity q)).evaluate machineTables =
      .ok ((Operand.quantity (q.map Binary64.neg)).map Number.real) := rfl
  have hcalculate := CalculationRequest.calculate_of_finite hevaluate hfinite
  have htask : (Task.calculate (negationSettings (.tagged q.value q.unit.id))).run machineTables =
      .ok (quantityText (q.map Binary64.neg) ++ "\n") := by
    rw [Task.run, runCalculate, hrequest]
    change report FaultKind.isCalculationFault _ >>= _ = _
    rw [hcalculate]
    rfl
  rw [run_eq_outcome hread rfl, Task.outcome, htask]
  rfl

/-- What a run comes to when it misses the operand. -/
def missedOperand : Outcome :=
  ⟨.exited 2, "", "aerounits calc: error: the following arguments are required: a\n", none⟩

/-- A negative number in front of a unit is taken for a flag, and the operand is missed. -/
lemma run_negationWords (hq : q.value.isFinite) :
    run machineTables (negationWords q) =
      if q.value.isNegative then missedOperand
      else ⟨.returned 0, quantityText (q.map Binary64.neg) ++ "\n", "", none⟩ := by
  have hne := operandWord_ne_divider q
  have hcalculate := role_operandWord hasLetters_calculateGrammar hq
  have hprogram := role_operandWord hasLetters_programGrammar hq
  have hroles {role : Role Invocation} (h : programGrammar.role (operandWord q) = .ok role) :
      programGrammar.roles ["negate", operandWord q] =
        .ok [("negate", .argument), (operandWord q, role)] :=
    Grammar.roles_cons (by decide) rfl (Grammar.roles_cons hne h rfl)
  by_cases hnegative : q.value.isNegative
  · rw [if_pos hnegative] at hcalculate hprogram ⊢
    have hread := read_calculate_error (hroles hprogram) (read_unknownFlag hne hcalculate)
    rw [run, negationWords, hread]
    rfl
  · rw [if_neg hnegative] at hcalculate hprogram ⊢
    have hread := read_negation hne (wordAsOperand_operandWord hq) hcalculate
    exact run_negation (read_calculate (hroles hprogram) rfl hread) hq

/-- After the divider the sign does not matter. -/
lemma run_dividedWords (hq : q.value.isFinite) :
    run machineTables (dividedWords q) =
      ⟨.returned 0, quantityText (q.map Binary64.neg) ++ "\n", "", none⟩ := by
  have hread := read_dividedNegation (operandWord_ne_divider q) (wordAsOperand_operandWord hq)
  have hroles : programGrammar.roles ["negate", "--", operandWord q] =
      .ok [("negate", .argument), ("--", .divider), (operandWord q, .argument)] :=
    Grammar.roles_cons (by decide) rfl rfl
  exact run_negation (read_calculate hroles rfl hread) hq

/-! ### Printed quantities -/

/-- A run that returns zero and prints a quantity. -/
structure Prints (o : Outcome) (q : Quantity Binary64) : Prop where
  returns_zero : o.ending = .returned 0
  output_eq : o.output = quantityText q ++ "\n"

lemma toList_quantityText (q : Quantity Binary64) : (quantityText q).toList =
    (Binary64.Layout.plain.write q.value).toList ++ ' ' :: q.unit.id.toList := by
  rw [quantityText, Quantity.text, String.toList_append, String.toList_append, List.append_assoc]
  rfl

/-- Only finite numbers are printed like a finite number. -/
lemma isFinite_of_write {x y : Binary64} (hx : x.isFinite)
    (h : Binary64.Layout.plain.write y = Binary64.Layout.plain.write x) : y.isFinite := by
  have hread := Binary64.Layout.ofText?_write .plain (Binary64.not_isNaN_of_isFinite hx)
  rw [← h] at hread
  by_cases hy : y.isNaN
  · have hnan : Binary64.ofText? "nan" = some (.nan 0) := by decide +kernel
    cases y with
    | nan mark =>
      obtain rfl := Option.some.inj (hnan.symm.trans hread)
      exact hx
    | finite | infinite => cases hy
  · rw [Binary64.Layout.ofText?_write .plain hy] at hread
    rw [Option.some.inj hread]
    exact hx

/-- The text of an operand is that of a quantity only if it is one. -/
lemma isFinite_of_operandText {r : Operand Binary64} (hr : r.value.isFinite)
    (h : operandText r = quantityText q) : q.value.isFinite := by
  have hlist := congrArg String.toList h
  rw [toList_quantityText] at hlist
  cases r with
  | number x =>
    obtain ⟨hblank, -⟩ := Binary64.Layout.plain.not_mem_write x
    have hnumber : (Binary64.Layout.plain.write x).toList =
      (Binary64.Layout.plain.write q.value).toList ++ ' ' :: q.unit.id.toList := hlist
    rw [hnumber] at hblank
    exact absurd (List.mem_append_right _ List.mem_cons_self) hblank
  | quantity p =>
    obtain ⟨hblank, -⟩ := Binary64.Layout.plain.not_mem_write p.value
    rw [operandText, toList_quantityText,
      List.append_cons_inj_of_notMem hblank p.unit.not_mem_id.1] at hlist
    exact isFinite_of_write hr (String.toList_inj.mp hlist.1).symm

/-- A tree is printed with braces, and a quantity without. -/
lemma indented_ne_quantityText (fields : List (String × Json)) (q : Quantity Binary64) :
    (Json.object fields).indented 0 ≠ quantityText q := by
  intro h
  have hbrace : '\x7b' ∈ (quantityText q).toList := by
    rw [← h, Json.indented, Json.block]
    split <;> simp
  rw [toList_quantityText, List.mem_append, List.mem_cons] at hbrace
  obtain ⟨-, -, -, hvalue⟩ := Binary64.Layout.plain.not_mem_write q.value
  obtain ⟨-, -, hunit⟩ := q.unit.not_mem_id
  rcases hbrace with hbrace | hbrace | hbrace
  · exact hvalue hbrace
  · exact absurd hbrace (by decide)
  · exact hunit hbrace

/-- What a calculation prints as a quantity is a finite one. -/
lemma isFinite_of_prints {words : List String} {s : Invocation} {c : CalculateSettings}
    (hread : Invocation.read words = .ok s) (htask : s.task = some (.calculate c))
    (hprints : Prints (run machineTables words) q) : q.value.isFinite := by
  obtain ⟨hending, houtput⟩ := hprints
  rw [run_eq_outcome hread htask, Task.outcome] at hending houtput
  rcases hresult : (Task.calculate c).run machineTables with trouble | output
  · rw [hresult] at hending
    cases trouble <;> cases hending
  · rw [hresult] at houtput
    rw [Task.run, runCalculate] at hresult
    obtain ⟨request, -, hresult⟩ := bind_eq_ok_iff.mp hresult
    obtain ⟨result, hresult, hshown⟩ := bind_eq_ok_iff.mp hresult
    have hfinite := (endsAnswerable_calculate request).of_eq_ok (mapError_eq_ok_iff.mp hresult)
    have hline : shown c.json result.toJson (operandText result.result) = quantityText q ++ "\n" :=
      (Except.ok.inj hshown).trans houtput
    rw [shown, String.append_left_inj] at hline
    cases hjson : c.json with
    | false =>
      rw [hjson] at hline
      exact isFinite_of_operandText hfinite hline
    | true =>
      rw [hjson] at hline
      exact absurd hline (indented_ne_quantityText _ q)

/--
A quantity that a calculation printed is negated by words that give it as it was printed, just when
it has no minus sign; else the run ends with a complaint, as if there was no operand. So of two
negations in turn one always fails. After the divider both succeed and lead back to the quantity.
-/
theorem run_negate_printed_iff {words : List String} {s : Invocation} {c : CalculateSettings}
    (hread : Invocation.read words = .ok s) (htask : s.task = some (.calculate c))
    (hprints : Prints (run machineTables words) q) :
    (Prints (run machineTables (negationWords q)) (q.map Binary64.neg) ↔
      ¬ q.value.isNegative) ∧
    (q.value.isNegative → run machineTables (negationWords q) = missedOperand) ∧
    (¬ q.value.isNegative →
      run machineTables (negationWords (q.map Binary64.neg)) = missedOperand) ∧
    Prints (run machineTables (dividedWords q)) (q.map Binary64.neg) ∧
    Prints (run machineTables (dividedWords (q.map Binary64.neg))) q := by
  have hq := isFinite_of_prints hread htask hprints
  have hneg : (q.map Binary64.neg).value.isFinite := Binary64.isFinite_neg hq
  have htwice : (q.map Binary64.neg).map Binary64.neg = q := by
    rw [Quantity.map, Quantity.map, Binary64.neg_neg_of_isFinite hq]
  have hrun := run_negationWords hq
  refine ⟨?_, ?_, ?_, ?_, ?_⟩
  · by_cases hnegative : q.value.isNegative
    · rw [hrun, if_pos hnegative]
      refine iff_of_false ?_ (not_not_intro hnegative)
      rintro ⟨hending, -⟩
      cases hending
    · rw [hrun, if_neg hnegative]
      exact iff_of_true ⟨rfl, rfl⟩ hnegative
  · intro hnegative
    rw [hrun, if_pos hnegative]
  · intro hnegative
    have hsign : (q.map Binary64.neg).value.isNegative := by
      rw [Quantity.map, Binary64.isNegative_neg hq]
      simpa using hnegative
    rw [run_negationWords hneg, if_pos hsign]
  · rw [run_dividedWords hq]
    exact ⟨rfl, rfl⟩
  · rw [run_dividedWords hneg, htwice]
    exact ⟨rfl, rfl⟩

lemma exists_calculate {words : List String} (h : (Invocation.read words).toOption.any fun s =>
      s.task.any fun task => decide (task.command = .calculate)) :
    ∃ s c, Invocation.read words = .ok s ∧ s.task = some (.calculate c) := by
  rcases hread : Invocation.read words with halt | s
  · rw [hread] at h
    cases h
  · rw [hread] at h
    rcases htask : s.task with - | task
    · have hnone : (s.task.any fun task => decide (task.command = .calculate)) = true := h
      rw [htask] at hnone
      cases hnone
    · have hcommand : (s.task.any fun task => decide (task.command = .calculate)) = true := h
      rw [htask] at hcommand
      cases task with
      | calculate c => exact ⟨s, c, rfl, htask⟩
      | _ => cases hcommand

/-- Five feet are negated, and what is printed then is not read. -/
theorem not_prints_negated_fiveFeet :
    ∃ s c, Invocation.read ["calc", "negate", "5:ft"] = .ok s ∧ s.task = some (.calculate c) ∧
      ∃ q, Prints (run machineTables ["calc", "negate", "5:ft"]) q ∧
        negationWords q = ["calc", "negate", "-5.0:ft"] ∧
        ¬ Prints (run machineTables (negationWords q)) (q.map Binary64.neg) := by
  have hruns : ((Invocation.read ["calc", "negate", "5:ft"]).toOption.any fun s =>
        s.task.any fun task => decide (task.command = .calculate)) ∧
      run machineTables ["calc", "negate", "5:ft"] =
        ⟨.returned 0, quantityText ⟨(Binary64.ofInt 5).neg, .foot⟩ ++ "\n", "", none⟩ ∧
      negationWords ⟨(Binary64.ofInt 5).neg, .foot⟩ = ["calc", "negate", "-5.0:ft"] ∧
      run machineTables ["calc", "negate", "-5.0:ft"] = missedOperand := by decide +kernel
  obtain ⟨hcalculate, hrun, hwords, hmissed⟩ := hruns
  obtain ⟨s, c, hread, htask⟩ := exists_calculate hcalculate
  refine ⟨s, c, hread, htask, ⟨(Binary64.ofInt 5).neg, .foot⟩, ?_, hwords, ?_⟩
  · rw [hrun]
    exact ⟨rfl, rfl⟩
  · rw [hwords, hmissed]
    rintro ⟨hending, -⟩
    cases hending

/-- Three feet are negated once, but their negation is read after the divider only. -/
theorem run_negate_printed_iff_threeFeet :
    ∃ q, quantityText q = "3.0 ft" ∧
      Prints (run machineTables ["calc", "add", "1:ft", "2:ft"]) q ∧
      Prints (run machineTables (negationWords q)) (q.map Binary64.neg) ∧
      run machineTables (negationWords (q.map Binary64.neg)) = missedOperand ∧
      Prints (run machineTables (dividedWords (q.map Binary64.neg))) q := by
  have hruns : ((Invocation.read ["calc", "add", "1:ft", "2:ft"]).toOption.any fun s =>
        s.task.any fun task => decide (task.command = .calculate)) ∧
      quantityText ⟨Binary64.ofInt 3, .foot⟩ = "3.0 ft" ∧
      run machineTables ["calc", "add", "1:ft", "2:ft"] =
        ⟨.returned 0, quantityText ⟨Binary64.ofInt 3, .foot⟩ ++ "\n", "", none⟩ ∧
      ¬ (Quantity.mk (Binary64.ofInt 3) .foot).value.isNegative := by decide +kernel
  obtain ⟨hcalculate, htext, hrun, hsign⟩ := hruns
  obtain ⟨s, c, hread, htask⟩ := exists_calculate hcalculate
  have hprints : Prints (run machineTables ["calc", "add", "1:ft", "2:ft"])
      ⟨Binary64.ofInt 3, .foot⟩ := by
    rw [hrun]
    exact ⟨rfl, rfl⟩
  obtain ⟨hiff, -, hmissed, -, hback⟩ := run_negate_printed_iff hread htask hprints
  exact ⟨_, htext, hprints, hiff.mpr hsign, hmissed hsign, hback⟩

end CommandLine

end FlightUnits
