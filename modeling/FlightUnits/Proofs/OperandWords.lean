import FlightUnits.CommandLine.Invocation
import FlightUnits.Proofs.TextCuts

/-!
# Words as operands

A word without a colon is an operand when it is a numeral. A word with a colon is one when the text
before the first colon is a numeral, whatever stands behind: that is the unit to its last character,
further colons and blanks included. But a word that ends with its only colon has no unit, and is
read as a plain number.
-/

namespace FlightUnits.CommandLine

namespace WrittenOperand

section Words

variable {before : List Char} {value value' unit unit' word : String}

lemma cutAtColon_of_notMem (h : ':' ∉ before) : cutAtColon before = (before, []) := by
  rw [cutAtColon, Text.span_of_notMem h]
  rfl

lemma cutAtColon_append (h : ':' ∉ before) (after : List Char) :
    cutAtColon (before ++ ':' :: after) = (before, after) := by
  rw [cutAtColon, Text.span_separator h]
  rfl

lemma ofText?_of_notMem (h : ':' ∉ word.toList) :
    ofText? word = (Binary64.ofText? word).map number := by
  rw [ofText?, cutAtColon_of_notMem h]
  simp

lemma toList_append_colon (value unit : String) :
    (value ++ ":" ++ unit).toList = value.toList ++ ':' :: unit.toList := by
  rw [String.toList_append, String.toList_append, List.append_assoc]
  rfl

lemma ofText?_append (h : ':' ∉ value.toList) (unit : String) :
    ofText? (value ++ ":" ++ unit) =
      (Binary64.ofText? value).map fun x => if unit = "" then number x else tagged x unit := by
  rw [ofText?, toList_append_colon, cutAtColon_append h]
  simp

/-- A word with a colon is cut at the first one. -/
lemma exists_of_mem (h : ':' ∈ word.toList) :
    ∃ value unit : String, ':' ∉ value.toList ∧ word = value ++ ":" ++ unit := by
  obtain ⟨before, after, hword, hbefore⟩ := List.eq_append_cons_of_mem h
  refine ⟨String.ofList before, String.ofList after, by rwa [String.toList_ofList], ?_⟩
  rw [← String.toList_inj, toList_append_colon, hword, String.toList_ofList, String.toList_ofList]

/-- There is one way to cut a word at its first colon. -/
lemma append_colon_inj (h : ':' ∉ value.toList) (h' : ':' ∉ value'.toList)
    (heq : value ++ ":" ++ unit = value' ++ ":" ++ unit') : value = value' ∧ unit = unit' := by
  have hcut := cutAtColon_append h unit.toList
  rw [← toList_append_colon, heq, toList_append_colon, cutAtColon_append h'] at hcut
  obtain ⟨hvalue, hunit⟩ := Prod.mk.inj hcut
  exact ⟨(String.toList_inj.mp hvalue).symm, (String.toList_inj.mp hunit).symm⟩

lemma ofText?_eq_number_iff {x : Binary64} :
    ofText? word = some (number x) ↔
      (':' ∉ word.toList ∧ Binary64.ofText? word = some x) ∨
        ∃ value : String, ':' ∉ value.toList ∧ word = value ++ ":" ∧
          Binary64.ofText? value = some x := by
  by_cases h : ':' ∈ word.toList
  · obtain ⟨value, unit, hvalue, rfl⟩ := exists_of_mem h
    rw [ofText?_append hvalue, Option.map_eq_some_iff, or_iff_right (fun hnot => hnot.1 h)]
    constructor
    · rintro ⟨y, hy, heq⟩
      split at heq
      next hunit =>
        obtain rfl := number.inj heq
        exact ⟨value, hvalue, by rw [hunit, String.append_empty], hy⟩
      next => cases heq
    · rintro ⟨value', hvalue', heq, hx⟩
      obtain ⟨rfl, rfl⟩ := append_colon_inj hvalue hvalue' (heq.trans String.append_empty.symm)
      exact ⟨x, hx, if_pos rfl⟩
  · rw [ofText?_of_notMem h, Option.map_eq_some_iff, or_iff_left]
    · simp [h]
    · rintro ⟨value, -, rfl, -⟩
      simp at h

lemma ofText?_eq_tagged_iff {x : Binary64} :
    ofText? word = some (tagged x unit) ↔
      ∃ value : String, ':' ∉ value.toList ∧ word = value ++ ":" ++ unit ∧ unit ≠ "" ∧
        Binary64.ofText? value = some x := by
  constructor
  · intro hread
    by_cases h : ':' ∈ word.toList
    · obtain ⟨value, unit', hvalue, rfl⟩ := exists_of_mem h
      rw [ofText?_append hvalue, Option.map_eq_some_iff] at hread
      obtain ⟨y, hy, heq⟩ := hread
      split at heq
      next => cases heq
      next hunit =>
        obtain ⟨rfl, rfl⟩ := tagged.inj heq
        exact ⟨value, hvalue, rfl, hunit, hy⟩
    · rw [ofText?_of_notMem h, Option.map_eq_some_iff] at hread
      obtain ⟨y, -, heq⟩ := hread
      cases heq
  · rintro ⟨value, hvalue, rfl, hunit, hx⟩
    rw [ofText?_append hvalue, hx, Option.map_some, if_neg hunit]

lemma ofText?_eq_none_iff :
    ofText? word = none ↔ (':' ∉ word.toList → Binary64.ofText? word = none) ∧
      ∀ value unit : String, ':' ∉ value.toList → word = value ++ ":" ++ unit →
        Binary64.ofText? value = none := by
  constructor
  · intro hread
    refine ⟨fun h => ?_, fun value unit hvalue hword => ?_⟩
    · rwa [ofText?_of_notMem h, Option.map_eq_none_iff] at hread
    · rwa [hword, ofText?_append hvalue, Option.map_eq_none_iff] at hread
  · rintro ⟨hplain, hcut⟩
    by_cases h : ':' ∈ word.toList
    · obtain ⟨value, unit, hvalue, hword⟩ := exists_of_mem h
      rw [hword, ofText?_append hvalue, hcut value unit hvalue hword, Option.map_none]
    · rw [ofText?_of_notMem h, hplain h, Option.map_none]

end Words

end WrittenOperand

open WrittenOperand

variable {word : String}

lemma wordAsOperand_eq_ok_iff {operand : WrittenOperand} :
    wordAsOperand word = .ok operand ↔ ofText? word = some operand := by
  rw [wordAsOperand]
  split
  next read hread => rw [hread, Except.ok.injEq, Option.some.injEq]
  next hread => exact iff_of_false nofun (by rw [hread]; nofun)

lemma wordAsOperand_eq_error_iff {refusal : Complaint} :
    wordAsOperand word = .error refusal ↔
      refusal = .misused (complaint word) ∧ ofText? word = none := by
  rw [wordAsOperand]
  split
  next read hread => exact iff_of_false nofun (by rw [hread]; nofun)
  next hread => rw [Except.error.injEq, hread, eq_comm, and_iff_left rfl]

/--
A word is read as a plain number when it is a numeral without a colon, or a numeral with nothing but
a colon behind it. It is read as a number with a unit when a numeral stands before the first colon
and some text behind it, and these are its number and its unit. All other words are refused with a
complaint that shows them.
-/
theorem wordAsOperand_exact (word : String) :
    (∀ x, wordAsOperand word = .ok (.number x) ↔
      (':' ∉ word.toList ∧ Binary64.ofText? word = some x) ∨
        ∃ value : String, ':' ∉ value.toList ∧ word = value ++ ":" ∧
          Binary64.ofText? value = some x) ∧
    (∀ x unit, wordAsOperand word = .ok (.tagged x unit) ↔
      ∃ value : String, ':' ∉ value.toList ∧ word = value ++ ":" ++ unit ∧ unit ≠ "" ∧
        Binary64.ofText? value = some x) ∧
    ∀ refusal, wordAsOperand word = .error refusal ↔
      refusal = .misused ("invalid operand '" ++ word ++ "' (expected VALUE or VALUE:UNIT)") ∧
        (':' ∉ word.toList → Binary64.ofText? word = none) ∧
        ∀ value unit : String, ':' ∉ value.toList → word = value ++ ":" ++ unit →
          Binary64.ofText? value = none := by
  refine ⟨fun x => ?_, fun x unit => ?_, fun refusal => ?_⟩
  · rw [wordAsOperand_eq_ok_iff, ofText?_eq_number_iff]
  · rw [wordAsOperand_eq_ok_iff, ofText?_eq_tagged_iff]
  · exact wordAsOperand_eq_error_iff.trans (and_congr_right fun _ => ofText?_eq_none_iff)

/-- A numeral with nothing but a colon behind it loses the colon. -/
theorem not_wordAsOperand_number_iff :
    ¬ ∀ word x, wordAsOperand word = .ok (.number x) ↔
      ':' ∉ word.toList ∧ Binary64.ofText? word = some x := by
  intro h
  have hone : Binary64.ofText? "1" = some (.ofInt 1) := by decide +kernel
  have hread : wordAsOperand "1:" = .ok (.number (.ofInt 1)) :=
    wordAsOperand_eq_ok_iff.mpr (ofText?_eq_number_iff.mpr (.inr ⟨"1", by decide, rfl, hone⟩))
  have hcolon := ((h "1:" (.ofInt 1)).mp hread).1
  simp at hcolon

end FlightUnits.CommandLine
