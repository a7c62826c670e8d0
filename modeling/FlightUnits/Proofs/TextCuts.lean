import FlightUnits.Text.LineBreak
import Mathlib.Data.List.Basic
import Mathlib.Data.List.TakeDrop
import Mathlib.Data.List.TakeWhile

/-!
# Cutting texts

A text is cut after its first characters with some property; where these are all characters but a
separator, the cut stands before the first separator. A line feed at the end is cut off alone.
-/

namespace FlightUnits.Text

variable {p : Char → Bool} {c : Char} {s front rest : List Char}

/-! ### Spans -/

lemma eq_append_of_span (h : s.span p = (front, rest)) :
    (∀ d ∈ front, p d) ∧ s = front ++ rest := by
  rw [List.span_eq_takeWhile_dropWhile] at h
  obtain ⟨rfl, rfl⟩ := Prod.mk.inj h
  exact ⟨fun d hd => List.mem_takeWhile_imp hd, List.takeWhile_append_dropWhile.symm⟩

/-- The cut stands where the first character without the property is. -/
lemma span_append (hfront : ∀ d ∈ front, p d) (hrest : ∀ d ∈ rest.head?, p d = false) :
    (front ++ rest).span p = (front, rest) := by
  have hend : rest.takeWhile p = [] ∧ rest.dropWhile p = rest := by
    cases rest with
    | nil => exact ⟨rfl, rfl⟩
    | cons d rest =>
      have hd := hrest d rfl
      exact ⟨List.takeWhile_cons_of_neg (by simp [hd]), List.dropWhile_cons_of_neg (by simp [hd])⟩
  rw [List.span_eq_takeWhile_dropWhile, List.takeWhile_append_of_pos hfront,
    List.dropWhile_append_of_pos hfront, hend.1, hend.2, List.append_nil]

lemma span_separator (h : c ∉ front) (rest : List Char) :
    (front ++ c :: rest).span (· != c) = (front, c :: rest) := by
  refine span_append (fun d hd => bne_iff_ne.mpr (ne_of_mem_of_not_mem hd h)) ?_
  rintro d ⟨⟩
  exact bne_self_eq_false c

lemma span_of_notMem (h : c ∉ s) : s.span (· != c) = (s, []) := by
  have hspan : (s ++ []).span (· != c) = (s, []) :=
    span_append (fun d hd => bne_iff_ne.mpr (ne_of_mem_of_not_mem hd h)) (by rintro d ⟨⟩)
  rwa [List.append_nil] at hspan

/-! ### The line feed at the end -/

lemma dropFinalBreak_cases (s : List Char) :
    s = dropFinalBreak s ++ ['\n'] ∨ dropFinalBreak s = s := by
  unfold dropFinalBreak
  split
  next h => exact .inl (List.dropLast_append_getLast? _ h).symm
  next => exact .inr rfl

lemma mem_dropFinalBreak (hc : c ∈ s) (hne : c ≠ '\n') : c ∈ dropFinalBreak s := by
  rcases dropFinalBreak_cases s with hs | hs
  · rw [hs, List.mem_append, List.mem_singleton] at hc
    exact hc.resolve_right hne
  · rwa [hs]

lemma dropFinalBreak_append (s : List Char) : dropFinalBreak (s ++ ['\n']) = s := by
  rw [dropFinalBreak, if_pos List.getLast?_concat, List.dropLast_concat]

end FlightUnits.Text
