import FlightUnits.Proofs.TextCuts
import FlightUnits.Release.Version
import FlightUnits.Text.Blank

/-!
# The form of versions

Well-formed versions are said here as a language: three runs of digits with dots between them, and
perhaps a mark with a word after it. They stand on one line, as no character of theirs is a space.
The recogniser accepts exactly the well-formed versions, and the check of a text accepts these and
those with one line feed after them.
-/

namespace FlightUnits.Release

/-! ### The language of versions -/

/-- A run of decimal digits of any script. -/
def IsDigitRun (s : List Char) : Prop :=
  s ≠ [] ∧ ∀ c ∈ s, Text.isDecimalDigit c

/-- A mark with a word of letters, digits and dots after it. -/
def IsMarkedWord (s : List Char) : Prop :=
  ∃ mark word, mark ∈ ['-', '.', '+'] ∧ word ≠ [] ∧ (∀ c ∈ word, isSuffixChar c) ∧
    s = mark :: word

/-- A version from the first to the last character of a text. -/
def IsWellFormed (s : List Char) : Prop :=
  ∃ major minor patch suffix, IsDigitRun major ∧ IsDigitRun minor ∧ IsDigitRun patch ∧
    (suffix = [] ∨ IsMarkedWord suffix) ∧
    s = major ++ '.' :: (minor ++ '.' :: (patch ++ suffix))

section Recognising

variable {s digits rest : List Char} {c : Char}

lemma afterDigits?_eq_some (h : afterDigits? s = some rest) :
    ∃ digits, IsDigitRun digits ∧ s = digits ++ rest := by
  unfold afterDigits? at h
  split at h
  next => cases h
  next digits rest' hne hspan =>
    obtain ⟨hall, rfl⟩ := Text.eq_append_of_span hspan
    obtain rfl := Option.some.inj h
    exact ⟨digits, ⟨hne, hall⟩, rfl⟩

lemma afterDotDigits?_eq_some (h : afterDotDigits? s = some rest) :
    ∃ digits, IsDigitRun digits ∧ s = '.' :: (digits ++ rest) := by
  unfold afterDotDigits? at h
  split at h
  next s =>
    obtain ⟨digits, hdigits, rfl⟩ := afterDigits?_eq_some h
    exact ⟨digits, hdigits, rfl⟩
  next => cases h

lemma afterDigits?_append (hdigits : IsDigitRun digits)
    (hrest : ∀ c ∈ rest.head?, Text.isDecimalDigit c = false) :
    afterDigits? (digits ++ rest) = some rest := by
  rw [afterDigits?, Text.span_append hdigits.2 hrest]
  split
  next hspan => exact absurd (Prod.mk.inj hspan).1 hdigits.1
  next hspan => rw [(Prod.mk.inj hspan).2]

lemma isDecimalDigit_of_isMark (h : c ∈ ['-', '.', '+']) : Text.isDecimalDigit c = false := by
  simp only [List.mem_cons, List.not_mem_nil, or_false] at h
  rcases h with rfl | rfl | rfl <;> decide

lemma isSuffix_iff : isSuffix s ↔ s = [] ∨ IsMarkedWord s := by
  cases s with
  | nil => exact iff_of_true rfl (Or.inl rfl)
  | cons mark word =>
    simp only [isSuffix, Bool.and_eq_true, Bool.or_eq_true, beq_iff_eq, List.all_eq_true,
      Bool.not_eq_true', List.isEmpty_eq_false_iff, List.cons_ne_nil, false_or]
    constructor
    · rintro ⟨⟨hmark, hne⟩, hword⟩
      exact ⟨mark, word, by simpa [or_assoc] using hmark, hne, hword, rfl⟩
    · rintro ⟨mark', word', hmark, hne, hword, heq⟩
      obtain ⟨rfl, rfl⟩ := List.cons.inj heq
      exact ⟨⟨by simpa [or_assoc] using hmark, hne⟩, hword⟩

/-- The recogniser accepts the well-formed versions. -/
theorem isPlainVersion_iff : isPlainVersion s ↔ IsWellFormed s := by
  constructor
  · intro h
    unfold isPlainVersion at h
    split at h
    next suffix hread =>
      obtain ⟨afterMinor, hfront, hlast⟩ := Option.bind_eq_some_iff.mp hread
      obtain ⟨afterMajor, hfirst, hsecond⟩ := Option.bind_eq_some_iff.mp hfront
      obtain ⟨major, hmajor, rfl⟩ := afterDigits?_eq_some hfirst
      obtain ⟨minor, hminor, rfl⟩ := afterDotDigits?_eq_some hsecond
      obtain ⟨patch, hpatch, rfl⟩ := afterDotDigits?_eq_some hlast
      exact ⟨major, minor, patch, suffix, hmajor, hminor, hpatch, isSuffix_iff.mp h, rfl⟩
    next => cases h
  · rintro ⟨major, minor, patch, suffix, hmajor, hminor, hpatch, hsuffix, rfl⟩
    -- neither a dot nor a mark prolongs the run of digits before it
    have hdot : ∀ rest, ∀ c ∈ ('.' :: rest).head?, Text.isDecimalDigit c = false := by
      rintro rest c ⟨⟩
      decide
    have hend : ∀ c ∈ suffix.head?, Text.isDecimalDigit c = false := by
      rcases hsuffix with rfl | ⟨mark, word, hmark, -, -, rfl⟩
      · rintro c ⟨⟩
      · rintro c ⟨⟩
        exact isDecimalDigit_of_isMark hmark
    unfold isPlainVersion
    rw [afterDigits?_append hmajor (hdot _), Option.bind_some, afterDotDigits?,
      afterDigits?_append hminor (hdot _), Option.bind_some, afterDotDigits?,
      afterDigits?_append hpatch hend]
    exact isSuffix_iff.mpr hsuffix

end Recognising

/-! ### One line -/

/-- A text on one line: among its characters, there is no space but the plain one. -/
def IsOnOneLine (s : List Char) : Prop :=
  ∀ c ∈ s, Text.isSpace c → c = ' '

section Characters

variable {s : List Char} {c : Char} {version : String}

lemma IsWellFormed.forall_mem (h : IsWellFormed s) :
    ∀ c ∈ s, Text.isDecimalDigit c ∨ isSuffixChar c ∨ c ∈ ['-', '.', '+'] := by
  obtain ⟨major, minor, patch, suffix, ⟨-, hmajor⟩, ⟨-, hminor⟩, ⟨-, hpatch⟩, hsuffix, rfl⟩ := h
  intro c hc
  simp only [List.mem_append, List.mem_cons] at hc
  rcases hc with hc | rfl | hc | rfl | hc | hc
  · exact .inl (hmajor c hc)
  · exact .inr (.inl rfl)
  · exact .inl (hminor c hc)
  · exact .inr (.inl rfl)
  · exact .inl (hpatch c hc)
  · rcases hsuffix with rfl | ⟨mark, word, hmark, -, hword, rfl⟩
    · cases hc
    · rcases List.mem_cons.mp hc with rfl | hc
      · exact .inr (.inr hmark)
      · exact .inr (.inl (hword c hc))

lemma IsWellFormed.ne_nil (h : IsWellFormed s) : s ≠ [] := by
  obtain ⟨major, minor, patch, suffix, -, -, -, -, rfl⟩ := h
  simp

/-- The spaces stand in three stretches of characters, and there is one apart. -/
lemma isSpace_eq_false (hascii : 0x20 < c.toNat) (hlatin : c.toNat < 0x85 ∨ 0xa0 < c.toNat)
    (hapart : c.toNat ≠ 0x1680) (hwide : c.toNat < 0x2000 ∨ 0x3000 < c.toNat) :
    Text.isSpace c = false := by
  simp only [Text.isSpace, Text.isBlank, Bool.or_eq_false_iff, Bool.and_eq_false_iff,
    decide_eq_false_iff_not, beq_eq_false_iff_ne]
  omega

/-- The runs of digits leave out the spaces. -/
lemma isSpace_of_isDecimalDigit (h : Text.isDecimalDigit c) : Text.isSpace c = false := by
  have hzeros : ∀ first ∈ Text.digitZeros, 0x20 < first ∧
      (first + 10 ≤ 0x85 ∨ 0xa0 < first) ∧ (first + 10 ≤ 0x1680 ∨ 0x1680 < first) ∧
      (first + 10 ≤ 0x2000 ∨ 0x3000 < first) := by decide
  rw [Text.isDecimalDigit, Text.digitValue?, Option.isSome_map, List.find?_isSome] at h
  obtain ⟨first, hfirst, hrange⟩ := h
  have hfirst := hzeros first hfirst
  simp only [Bool.and_eq_true, decide_eq_true_eq] at hrange
  apply isSpace_eq_false <;> omega

lemma isSpace_of_isSuffixChar (h : isSuffixChar c) : Text.isSpace c = false := by
  have hcases : (c.isUpper || c.isLower || c.isDigit || c == '.') = true := h
  simp only [Bool.or_eq_true, beq_iff_eq] at hcases
  have hcode : 45 < c.toNat ∧ c.toNat < 123 := by
    rcases hcases with ((hupper | hlower) | hdigit) | rfl
    · have hrange : 'A'.val ≤ c.val ∧ c.val ≤ 'Z'.val := of_decide_eq_true hupper
      exact ⟨Nat.lt_of_lt_of_le (by decide) hrange.1, Nat.lt_of_le_of_lt hrange.2 (by decide)⟩
    · obtain ⟨hfirst, hlast⟩ := Bool.and_eq_true_iff.mp hlower
      exact ⟨Nat.lt_of_lt_of_le (by decide) (of_decide_eq_true hfirst),
        Nat.lt_of_le_of_lt (of_decide_eq_true hlast) (by decide)⟩
    · have hrange := Char.isDigit_iff_toNat.mp hdigit
      exact ⟨Nat.lt_of_lt_of_le (by decide) hrange.1, Nat.lt_of_le_of_lt hrange.2 (by decide)⟩
    · decide
  apply isSpace_eq_false <;> omega

/-- A well-formed version has no space, and so no line break. -/
theorem IsWellFormed.isSpace_eq_false (h : IsWellFormed s) : ∀ c ∈ s, Text.isSpace c = false := by
  intro c hc
  rcases h.forall_mem c hc with hdigit | hword | hmark
  · exact isSpace_of_isDecimalDigit hdigit
  · exact isSpace_of_isSuffixChar hword
  · simp only [List.mem_cons, List.not_mem_nil, or_false] at hmark
    rcases hmark with rfl | rfl | rfl <;> decide

/-- The check overlooks one line feed at the end of a text. -/
theorem isVersion_iff :
    isVersion version ↔ IsWellFormed version.toList ∨
      ∃ plain, IsWellFormed plain ∧ version.toList = plain ++ ['\n'] := by
  rw [isVersion, isPlainVersion_iff]
  constructor
  · intro h
    rcases Text.dropFinalBreak_cases version.toList with hbreak | hplain
    · exact .inr ⟨_, h, hbreak⟩
    · rw [hplain] at h
      exact .inl h
  · rintro (h | ⟨plain, h, hbreak⟩)
    · -- a well-formed version has no line feed to be dropped
      rcases Text.dropFinalBreak_cases version.toList with hbreak | hplain
      · have hmem : '\n' ∈ version.toList := by
          rw [hbreak]
          exact List.mem_append_right _ (List.mem_singleton.mpr rfl)
        exact absurd (h.isSpace_eq_false _ hmem) (by decide)
      · rwa [hplain]
    · rwa [hbreak, Text.dropFinalBreak_append]

end Characters

end FlightUnits.Release
