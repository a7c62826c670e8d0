import FlightUnits.Proofs.TextCuts
import FlightUnits.Release.VersionLine

/-!
# The first version line of a text

A version line is said here as a language: a key, an equals sign between spaces, and a text in
double quotes. The first one of a text is the one that no other begins before. Cutting a text finds
exactly its first version line, and when that is replaced by another one, the other is the first
version line of the new text: no replacement makes an earlier one.
-/

namespace FlightUnits.Release

/-! ### The language of version lines -/

/-- An equals sign between spaces. -/
def IsSign (s : List Char) : Prop :=
  ∃ left right, (∀ c ∈ left, Text.isSpace c) ∧ (∀ c ∈ right, Text.isSpace c) ∧
    s = left ++ '=' :: right

/-- A text in double quotes that is not empty. -/
def IsQuoted (s : List Char) : Prop :=
  ∃ text, text ≠ [] ∧ '"' ∉ text ∧ s = '"' :: text ++ ['"']

/-- A version line of a key. -/
def IsVersionLine (key line : List Char) : Prop :=
  ∃ sign quoted, IsSign sign ∧ IsQuoted quoted ∧ line = key ++ sign ++ quoted

/--
A place after which a line starts: at the end of some lines, or at the beginning if `start` tells
that a line begins there.
-/
def StartsLine (start : Bool) (before : List Char) : Prop :=
  (before = [] ∧ start = true) ∨ before.getLast? = some '\n'

/-- The version line with which the first one of a text begins, and the text around it. -/
structure FirstVersionLine (key : List Char) (start : Bool) (text before line after : List Char) :
    Prop where
  text_eq : text = before ++ line ++ after
  startsLine : StartsLine start before
  isVersionLine : IsVersionLine key line
  first : ∀ before' line' after', text = before' ++ line' ++ after' → StartsLine start before' →
    IsVersionLine key line' → before.length ≤ before'.length

/-! ### Cutting a text -/

section Cutting

variable {key s before line after : List Char} {start : Bool}

lemma dropWhile_eq_cons_iff {p : Char → Bool} {c : Char} {rest : List Char} :
    s.dropWhile p = c :: rest ↔
      p c = false ∧ ∃ front, (∀ d ∈ front, p d) ∧ s = front ++ c :: rest := by
  constructor
  · intro h
    have hhead := List.head?_dropWhile_not p s
    rw [h, List.head?_cons] at hhead
    refine ⟨hhead, s.takeWhile p, fun d hd => List.mem_takeWhile_imp hd, ?_⟩
    rw [← h, List.takeWhile_append_dropWhile]
  · rintro ⟨hc, front, hfront, rfl⟩
    rw [List.dropWhile_append_of_pos hfront, List.dropWhile_cons_of_neg (by simp [hc])]

lemma afterQuoted?_eq_some_iff :
    afterQuoted? s = some after ↔ ∃ quoted, IsQuoted quoted ∧ s = quoted ++ after := by
  constructor
  · intro h
    unfold afterQuoted? at h
    split at h
    next rest =>
      split at h
      next c text after' hspan =>
        obtain ⟨htext, rfl⟩ := Text.eq_append_of_span hspan
        obtain rfl := Option.some.inj h
        refine ⟨'"' :: (c :: text) ++ ['"'], ⟨c :: text, List.cons_ne_nil _ _, ?_, rfl⟩, by simp⟩
        exact fun hmem => absurd (htext _ hmem) (by decide)
      next => cases h
    next => cases h
  · rintro ⟨-, ⟨text, hne, hmem, rfl⟩, rfl⟩
    have hspan := Text.span_separator hmem after
    obtain ⟨c, text, rfl⟩ := List.exists_cons_of_ne_nil hne
    simp only [List.cons_append, List.append_assoc, List.nil_append] at hspan ⊢
    simp only [afterQuoted?, hspan]

lemma afterAssignment?_eq_some_iff :
    afterAssignment? s = some after ↔
      ∃ sign quoted, IsSign sign ∧ IsQuoted quoted ∧ s = sign ++ quoted ++ after := by
  have hequals : Text.isSpace '=' = false := by decide
  have hquote : Text.isSpace '"' = false := by decide
  constructor
  · intro h
    unfold afterAssignment? at h
    split at h
    next rest hs =>
      obtain ⟨-, left, hleft, rfl⟩ := dropWhile_eq_cons_iff.mp hs
      obtain ⟨quoted, hquoted, hrest⟩ := afterQuoted?_eq_some_iff.mp h
      obtain ⟨text, -, -, rfl⟩ := id hquoted
      obtain ⟨-, right, hright, rfl⟩ := dropWhile_eq_cons_iff.mp hrest
      exact ⟨left ++ '=' :: right, _, ⟨left, right, hleft, hright, rfl⟩, hquoted, by simp⟩
    next => cases h
  · rintro ⟨-, quoted, ⟨left, right, hleft, hright, rfl⟩, hquoted, rfl⟩
    have hrest : (right ++ (quoted ++ after)).dropWhile Text.isSpace = quoted ++ after := by
      obtain ⟨text, -, -, rfl⟩ := hquoted
      exact dropWhile_eq_cons_iff.mpr ⟨hquote, right, hright, rfl⟩
    have hsign : (left ++ '=' :: (right ++ (quoted ++ after))).dropWhile Text.isSpace =
        '=' :: (right ++ (quoted ++ after)) :=
      dropWhile_eq_cons_iff.mpr ⟨hequals, left, hleft, rfl⟩
    simp only [List.append_assoc, List.cons_append, afterAssignment?, hsign, hrest]
    exact afterQuoted?_eq_some_iff.mpr ⟨quoted, hquoted, rfl⟩

lemma afterVersionLine?_eq_some_iff :
    afterVersionLine? key s = some after ↔ ∃ line, IsVersionLine key line ∧ s = line ++ after := by
  unfold afterVersionLine?
  split
  next hkey =>
    obtain ⟨rest, rfl⟩ := List.isPrefixOf_iff_prefix.mp hkey
    rw [List.drop_left, afterAssignment?_eq_some_iff]
    constructor
    · rintro ⟨sign, quoted, hsign, hquoted, rfl⟩
      exact ⟨key ++ sign ++ quoted, ⟨sign, quoted, hsign, hquoted, rfl⟩, by simp⟩
    · rintro ⟨-, ⟨sign, quoted, hsign, hquoted, rfl⟩, hs⟩
      refine ⟨sign, quoted, hsign, hquoted, ?_⟩
      simpa using hs
  next hkey =>
    refine iff_of_false (by simp) ?_
    rintro ⟨-, ⟨sign, quoted, -, -, rfl⟩, rfl⟩
    refine hkey (List.isPrefixOf_iff_prefix.mpr ?_)
    exact ⟨sign ++ quoted ++ after, by simp⟩

lemma startsLine_nil : StartsLine start [] ↔ start = true := by
  simp [StartsLine]

lemma startsLine_cons {c : Char} : StartsLine start (c :: before) ↔ StartsLine (c == '\n') before := by
  cases before <;> simp [StartsLine]

lemma IsVersionLine.ne_nil (h : IsVersionLine key line) : line ≠ [] := by
  obtain ⟨-, -, ⟨left, right, -, -, rfl⟩, -, rfl⟩ := h
  simp

/-- A text that begins with a version line has it first, if a line starts there. -/
lemma afterVersionLine?_iff_first :
    (if start then afterVersionLine? key s else none) = some after ↔
      ∃ line, FirstVersionLine key start s [] line after := by
  cases start with
  | false =>
    refine iff_of_false (by simp) ?_
    rintro ⟨line, h⟩
    exact absurd (startsLine_nil.mp h.startsLine) (by decide)
  | true =>
    rw [if_pos rfl, afterVersionLine?_eq_some_iff]
    constructor
    · rintro ⟨line, hline, rfl⟩
      exact ⟨line, rfl, startsLine_nil.mpr rfl, hline, fun _ _ _ _ _ _ => Nat.zero_le _⟩
    · rintro ⟨line, h⟩
      exact ⟨line, h.isVersionLine, h.text_eq⟩

lemma FirstVersionLine.tail {c : Char}
    (h : FirstVersionLine key start (c :: s) (c :: before) line after) :
    FirstVersionLine key (c == '\n') s before line after where
  text_eq := List.tail_eq_of_cons_eq h.text_eq
  startsLine := startsLine_cons.mp h.startsLine
  isVersionLine := h.isVersionLine
  first before' line' after' htext hstarts hline := by
    have hle := h.first (c :: before') line' after' (by rw [htext]; rfl)
      (startsLine_cons.mpr hstarts) hline
    exact Nat.le_of_succ_le_succ hle

lemma FirstVersionLine.cons {c : Char}
    (h : FirstVersionLine key (c == '\n') s before line after)
    (hnone : ∀ line after, ¬ FirstVersionLine key start (c :: s) [] line after) :
    FirstVersionLine key start (c :: s) (c :: before) line after where
  text_eq := by rw [h.text_eq]; rfl
  startsLine := startsLine_cons.mpr h.startsLine
  isVersionLine := h.isVersionLine
  first before' line' after' htext hstarts hline := by
    cases before' with
    | nil => exact absurd ⟨htext, hstarts, hline, fun _ _ _ _ _ _ => Nat.zero_le _⟩ (hnone _ _)
    | cons d before' =>
      obtain ⟨rfl, hs⟩ := List.cons.inj htext
      exact Nat.succ_le_succ (h.first before' line' after' hs (startsLine_cons.mp hstarts) hline)

/-- Cutting a text finds its first version line. -/
theorem cutVersionLine?_eq_some_iff :
    cutVersionLine? key start s = some (before, after) ↔
      ∃ line, FirstVersionLine key start s before line after := by
  induction s generalizing start before with
  | nil =>
    refine iff_of_false (by simp [cutVersionLine?]) ?_
    rintro ⟨line, h⟩
    obtain ⟨hline, -⟩ := List.append_eq_nil_iff.mp h.text_eq.symm
    exact h.isVersionLine.ne_nil (List.append_eq_nil_iff.mp hline).2
  | cons c rest ih =>
    rw [cutVersionLine?]
    split
    next after' hhere =>
      obtain ⟨line', h'⟩ := afterVersionLine?_iff_first.mp hhere
      simp only [Option.some.injEq, Prod.mk.injEq]
      constructor
      · rintro ⟨rfl, rfl⟩
        exact ⟨line', h'⟩
      · rintro ⟨line, h⟩
        obtain rfl : before = [] := by
          have hle := h.first [] line' after' h'.text_eq h'.startsLine h'.isVersionLine
          exact List.length_eq_zero_iff.mp (Nat.le_zero.mp hle)
        have hafter := afterVersionLine?_iff_first.mpr ⟨line, h⟩
        exact ⟨rfl, Option.some.inj (hhere.symm.trans hafter)⟩
    next hnone =>
      have hnone' : ∀ line after, ¬ FirstVersionLine key start (c :: rest) [] line after := by
        intro line after h
        rw [afterVersionLine?_iff_first.mpr ⟨line, h⟩] at hnone
        cases hnone
      simp only [Option.map_eq_some_iff, Prod.exists, Prod.mk.injEq]
      constructor
      · rintro ⟨before, after, hcut, rfl, rfl⟩
        obtain ⟨line, h⟩ := ih.mp hcut
        exact ⟨line, h.cons hnone'⟩
      · rintro ⟨line, h⟩
        cases before with
        | nil => exact absurd h (hnone' _ _)
        | cons d before =>
          obtain ⟨rfl, -⟩ := List.cons.inj h.text_eq
          exact ⟨before, after, ih.mpr ⟨line, h.tail⟩, rfl, rfl⟩

/-- The plain line of a version takes the place of the first version line. -/
theorem replaceVersionLine?_eq_some_iff {version new : List Char} :
    replaceVersionLine? key version s = some new ↔
      ∃ before line after, FirstVersionLine key true s before line after ∧
        new = before ++ versionLine key version ++ after := by
  simp only [replaceVersionLine?, Option.map_eq_some_iff, Prod.exists, cutVersionLine?_eq_some_iff]
  constructor
  · rintro ⟨before, after, ⟨line, h⟩, rfl⟩
    exact ⟨before, line, after, h, rfl⟩
  · rintro ⟨before, line, after, h, rfl⟩
    exact ⟨before, after, ⟨line, h⟩, rfl⟩

end Cutting

/-! ### Replacing the first version line -/

/-- A key of version lines: not empty, without quotes, equals signs and spaces. -/
structure IsKey (key : List Char) : Prop where
  ne_nil : key ≠ []
  not_mem_quote : '"' ∉ key
  not_mem_equals : '=' ∉ key
  not_mem_space : ∀ c ∈ key, Text.isSpace c = false

section Replacing

variable {key before line line' after : List Char} {start : Bool}

lemma IsSign.eq_or_isSpace_of_mem {sign : List Char} {c : Char} (h : IsSign sign) (hc : c ∈ sign) :
    c = '=' ∨ Text.isSpace c := by
  obtain ⟨left, right, hleft, hright, rfl⟩ := h
  rcases List.mem_append.mp hc with hc | hc
  · exact Or.inr (hleft c hc)
  · exact (List.mem_cons.mp hc).imp_right (hright c)

lemma IsSign.not_mem_quote {sign : List Char} (h : IsSign sign) : '"' ∉ sign := by
  intro hmem
  exact absurd (h.eq_or_isSpace_of_mem hmem) (by decide)

/-- No character of a key stands in a sign. -/
lemma IsSign.not_mem_of_isKey {sign : List Char} {c : Char} (h : IsSign sign) (hkey : IsKey key)
    (hc : c ∈ key) : c ∉ sign := by
  intro hmem
  rcases h.eq_or_isSpace_of_mem hmem with rfl | hspace
  · exact hkey.not_mem_equals hc
  · rw [hkey.not_mem_space c hc] at hspace
    cases hspace

/-- A version line does not begin with a quote. -/
lemma IsVersionLine.quote_cons_ne {rest : List Char} (hkey : IsKey key)
    (h : IsVersionLine key line) : '"' :: rest ≠ line ++ after := by
  obtain ⟨sign, quoted, -, -, rfl⟩ := h
  obtain ⟨c, key, rfl⟩ := List.exists_cons_of_ne_nil hkey.ne_nil
  intro heq
  exact hkey.not_mem_quote ((List.cons.inj heq).1 ▸ List.mem_cons_self)

/-- The sign of a version line does not reach over a line break into another version line. -/
lemma IsVersionLine.sign_not_across {mid sign rest tail : List Char} (hkey : IsKey key)
    (hmid : mid.getLast? = some '\n') (hsign : IsSign sign) (hline : IsVersionLine key line)
    (hcut : key ++ sign = mid ++ rest) (hrest : line ++ after = rest ++ '"' :: tail) : False := by
  cases rest with
  | nil => exact hline.quote_cons_ne hkey hrest.symm
  | cons c rest =>
    have hc : c ∈ key := by
      obtain ⟨sign', quoted', -, -, rfl⟩ := hline
      obtain ⟨d, key, rfl⟩ := List.exists_cons_of_ne_nil hkey.ne_nil
      exact (List.cons.inj hrest).1 ▸ List.mem_cons_self
    rcases List.append_eq_append_iff.mp hcut with ⟨blanks, -, rfl⟩ | ⟨rest', rfl, -⟩
    · exact hsign.not_mem_of_isKey hkey hc (by simp)
    · have hbreak : '\n' ∈ mid ++ rest' := List.mem_append_left _ (List.mem_of_getLast? hmid)
      exact absurd (hkey.not_mem_space _ hbreak) (by decide)

/--
A version line that begins some lines before another one closes its quotes before it, or with the
first quote of the other. So one begins there whatever version line the other is.
-/
lemma exists_versionLine_of_before {mid early rest : List Char} (hkey : IsKey key)
    (hmid : mid.getLast? = some '\n') (hline : IsVersionLine key line)
    (hline' : IsVersionLine key line') (hearly : IsVersionLine key early)
    (h : mid ++ line' ++ after = early ++ rest) :
    ∃ early' rest', IsVersionLine key early' ∧ mid ++ line ++ after = early' ++ rest' := by
  obtain ⟨sign, -, hsign, ⟨text, hne, hquote, rfl⟩, rfl⟩ := hearly
  have hcut : (key ++ sign) ++ '"' :: (text ++ '"' :: rest) = mid ++ (line' ++ after) := by
    simpa using h.symm
  rcases List.append_eq_append_iff.mp hcut with ⟨opened, rfl, hopened⟩ | ⟨rest', hkeysign, hrest⟩
  · cases opened with
    | nil => exact (hline'.quote_cons_ne hkey hopened).elim
    | cons c inner =>
      obtain ⟨rfl, hinner⟩ := List.cons.inj hopened
      rcases List.append_eq_append_iff.mp hinner with ⟨closed, rfl, hclosed⟩ | ⟨text', rfl, -⟩
      · -- the quotes are closed before the other line
        cases closed with
        | nil => exact (hline'.quote_cons_ne hkey hclosed).elim
        | cons d between =>
          obtain ⟨rfl, -⟩ := List.cons.inj hclosed
          exact ⟨key ++ sign ++ ('"' :: text ++ ['"']), between ++ line ++ after,
            ⟨sign, _, hsign, ⟨text, hne, hquote, rfl⟩, rfl⟩, by simp⟩
      · -- the quotes are open where the other line begins, and its first quote closes them
        obtain ⟨sign₀, -, hsign₀, ⟨text₀, -, -, rfl⟩, rfl⟩ := hline
        have hopen : '"' ∉ inner ++ key ++ sign₀ := by
          simp only [List.mem_append, not_or] at hquote ⊢
          exact ⟨⟨hquote.1, hkey.not_mem_quote⟩, hsign₀.not_mem_quote⟩
        refine ⟨key ++ sign ++ ('"' :: (inner ++ key ++ sign₀) ++ ['"']), text₀ ++ '"' :: after,
          ⟨sign, _, hsign, ⟨inner ++ key ++ sign₀, ?_, hopen, rfl⟩, rfl⟩, by simp⟩
        simp [hkey.ne_nil]
  · exact (hline'.sign_not_across hkey hmid hsign hkeysign hrest).elim

/--
When the first version line of a text is replaced by another version line, that one is the first of
the new text.
-/
theorem FirstVersionLine.replace {text : List Char} (hkey : IsKey key)
    (h : FirstVersionLine key start text before line after) (hline' : IsVersionLine key line') :
    FirstVersionLine key start (before ++ line' ++ after) before line' after where
  text_eq := rfl
  startsLine := h.startsLine
  isVersionLine := hline'
  first earlier early rest htext hstarts hearly := by
    by_contra hlt
    rw [not_le] at hlt
    obtain ⟨mid, rfl⟩ : ∃ mid, before = earlier ++ mid := by
      rw [List.append_assoc, List.append_assoc] at htext
      rcases List.append_eq_append_iff.mp htext with ⟨mid, rfl, -⟩ | ⟨mid, hmid, -⟩
      · rw [List.length_append] at hlt
        omega
      · exact ⟨mid, hmid⟩
    have hne : mid ≠ [] := by
      rintro rfl
      simp at hlt
    have hbreak : mid.getLast? = some '\n' := by
      rcases h.startsLine with ⟨hnil, -⟩ | hlast
      · exact absurd (List.append_eq_nil_iff.mp hnil).2 hne
      · obtain ⟨c, hc⟩ := Option.ne_none_iff_exists'.mp (mt List.getLast?_eq_none_iff.mp hne)
        rw [List.getLast?_append, hc, Option.some_or] at hlast
        rw [hc, hlast]
    have hnew : mid ++ line' ++ after = early ++ rest := by simpa using htext
    obtain ⟨early', rest', hearly', hold⟩ :=
      exists_versionLine_of_before hkey hbreak h.isVersionLine hline' hearly hnew
    have hle := h.first earlier early' rest' (by rw [h.text_eq]; simpa using hold) hstarts hearly'
    omega

end Replacing

end FlightUnits.Release
