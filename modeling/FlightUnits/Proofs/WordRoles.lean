import FlightUnits.CommandLine.Reading
import FlightUnits.Proofs.FallibleSteps
import FlightUnits.Proofs.TextCuts

/-!
# Words below zero

A word that starts with a minus sign is an argument only if it is a number or has a blank. With a
colon in it, it is no number, and it counts as a flag that the grammar does not know; then it fills
no slot. After the divider every word is an argument.
-/

namespace FlightUnits.CommandLine

open Text

variable {σ : Type} {g : Grammar σ}

/-! ### Roles -/

/-- A number has no colon. -/
lemma not_isNegativeNumeral {word : List Char} (h : ':' ∈ word) : ¬ isNegativeNumeral word := by
  have hcolon := mem_dropFinalBreak h (by decide)
  have hdigit : ¬ isDecimalDigit ':' := by decide
  rw [isNegativeNumeral]
  split
  · next digits heq =>
    rw [heq] at hcolon
    have hmem : ':' ∈ digits := (List.mem_cons.mp hcolon).resolve_left (by decide)
    have hrest {run rest : List Char} (hspan : digits.span isDecimalDigit = (run, rest)) :
        ':' ∈ rest := by
      obtain ⟨hrun, rfl⟩ := eq_append_of_span hspan
      exact (List.mem_append.mp hmem).resolve_left fun hc => hdigit (hrun _ hc)
    split
    · next hnil => cases hrest hnil
    · next hpoint =>
      have hfraction := (List.mem_cons.mp (hrest hpoint)).resolve_left (by decide)
      intro hall
      exact hdigit (List.all_eq_true.mp (Bool.and_eq_true_iff.mp hall).2 _ hfraction)
    · exact Bool.false_ne_true
  · exact Bool.false_ne_true

namespace Grammar

/-- No flag of the grammar has a digit as its first letter. -/
def HasLetters (g : Grammar σ) : Prop :=
  ∀ p ∈ g.names, p.1.toList[1]?.any Char.isDigit = false

lemma role_of_not_minus {word : String} (h : word.toList.head? ≠ some '-') :
    g.role word = .ok .argument := if_pos h

variable {word : String} {c : Char} {cs : List Char}

lemma assignedFlag?_eq_none (h : '=' ∉ word.toList) : g.assignedFlag? word = none := by
  have hcut : cutAtEquals word.toList = (word.toList, none) := by
    rw [cutAtEquals, span_of_notMem h]
  rw [assignedFlag?, hcut]

section NegativeNumbers

variable (hletters : g.HasLetters) (hword : word.toList = '-' :: c :: cs) (hc : c.isDigit)

include hletters hc

lemma HasLetters.take_two_ne {p : String × Flag σ} (hp : p ∈ g.names) :
    p.1.toList.take 2 ≠ ['-', c] := by
  intro htake
  have hsecond : p.1.toList[1]? = some c := by
    rw [← List.getElem?_take_of_lt (Nat.lt_succ_self 1), htake]
    rfl
  have hletter := hletters p hp
  rw [hsecond, Option.any_some, hc] at hletter
  cases hletter

include hword

lemma flag?_eq_none : g.flag? word = none := by
  rw [flag?, List.lookup_eq_none_iff]
  intro p hp
  rw [bne_iff_ne]
  rintro rfl
  exact hletters.take_two_ne hc hp (by rw [hword]; rfl)

lemma candidates_eq_nil : g.candidates word.toList = [] := by
  have hfilter : (g.names.filter fun p => p.1.toList == word.toList.take 2) = [] := by
    rw [List.filter_eq_nil_iff]
    intro p hp heq
    rw [beq_iff_eq, hword] at heq
    exact hletters.take_two_ne hc hp (by rw [heq]; rfl)
  rw [candidates.eq_def]
  split
  · next rest heq =>
    rw [hword] at heq
    obtain rfl := (List.cons.inj (List.cons.inj heq).2).1
    exact absurd hc (by decide)
  · exact List.map_eq_nil_iff.mpr hfilter

/-- A word like a negative number in front of a colon is no known flag. -/
lemma role_of_colon (hcolon : ':' ∈ cs) (hequals : '=' ∉ cs) (hblank : ' ' ∉ cs) :
    g.role word = .ok .unknownFlag := by
  have hmem {d : Char} (hd : d ∉ cs) (hne : d ≠ '-') (hdigit : ¬ d.isDigit) :
      d ∉ word.toList := by
    rw [hword, List.mem_cons, List.mem_cons]
    rintro (rfl | rfl | h)
    · exact hne rfl
    · exact hdigit hc
    · exact hd h
  have hnumeral : isNegativeNumeral word.toList = false := by
    rw [Bool.eq_false_iff]
    refine not_isNegativeNumeral ?_
    rw [hword]
    exact List.mem_cons_of_mem _ (List.mem_cons_of_mem _ hcolon)
  have hspace : word.toList.contains ' ' = false := by
    rw [Bool.eq_false_iff, Ne, List.contains_iff_mem]
    exact hmem hblank (by decide) (by decide)
  have hguessed : g.guessedRole word = .ok .unknownFlag := by
    rw [guessedRole, candidates_eq_nil hletters hword hc, hnumeral, hspace]
    rfl
  have hminus : word ≠ "-" := by
    rintro rfl
    cases hword
  rw [role, if_neg (by rw [hword]; simp), flag?_eq_none hletters hword hc]
  dsimp only
  rw [if_neg hminus, assignedFlag?_eq_none (hmem hequals (by decide) (by decide))]
  exact hguessed

end NegativeNumbers

lemma roles_cons {role : Role σ} {words : List String} {rest : List (String × Role σ)}
    (hne : word ≠ "--") (hrole : g.role word = .ok role) (hrest : g.roles words = .ok rest) :
    g.roles (word :: words) = .ok ((word, role) :: rest) := by
  rw [roles, if_neg hne, hrole, ok_bind, hrest]
  rfl

lemma map_fst_of_roles {words : List String} {roles : List (String × Role σ)}
    (h : g.roles words = .ok roles) : roles.map Prod.fst = words := by
  induction words generalizing roles with
  | nil =>
    obtain rfl := Except.ok.inj h
    rfl
  | cons word words ih =>
    rw [Grammar.roles] at h
    by_cases hword : word = "--"
    · rw [if_pos hword] at h
      obtain rfl := Except.ok.inj h
      rw [List.map_cons, List.map_map]
      congr 1
      exact List.map_id words
    · rw [if_neg hword, bind_eq_ok_iff] at h
      obtain ⟨role, -, h⟩ := h
      obtain ⟨rest, hrest, h⟩ := bind_eq_ok_iff.mp h
      obtain rfl := Except.ok.inj h
      rw [List.map_cons, ih hrest]

/-! ### Steps of reading -/

variable {slot : Slot σ} {slots rest : List (Slot σ)} {words : List (String × Role σ)}
  {s s' t : σ} {n k : Nat} {p : Progress σ} {halt : Halt}

lemma fill_cons (htake : Slot.take? slot.capacity (words.map Prod.snd) = some n)
    (hact : slot.act (Slot.wordsFor slot.capacity ((words.take n).map Prod.fst)) s = .ok s')
    (hrest : g.fill slots (words.drop n) s' = .ok (rest, t, k)) :
    g.fill (slot :: slots) words s = .ok (rest, t, n + k) := by
  have hown : (slot.act (Slot.wordsFor slot.capacity ((words.take n).map Prod.fst)) s).mapError
      (g.naming slot.name) = .ok s' := by
    rw [hact]
    rfl
  rw [fill, htake]
  dsimp only
  rw [hown, ok_bind, hrest]
  rfl

lemma fill_cons_none (htake : Slot.take? slot.capacity (words.map Prod.snd) = none) :
    g.fill (slot :: slots) words s = .ok (slot :: slots, s, 0) := by
  rw [fill, htake]

lemma fill_cons_error {message : Complaint}
    (htake : Slot.take? slot.capacity (words.map Prod.snd) = some n)
    (hact : slot.act (Slot.wordsFor slot.capacity ((words.take n).map Prod.fst)) s =
      .error message) :
    g.fill (slot :: slots) words s = .error (g.naming slot.name message) := by
  rw [fill, htake]
  dsimp only
  rw [hact]
  rfl

/-- Arguments up to the end of the words fill all slots. -/
lemma read_of_fill {after : List String}
    (hroles : g.roles (word :: after) = .ok ((word, .argument) :: words))
    (hwords : (words.any fun w => w.2.isFlag) = false)
    (hfill : g.fill g.slots ((word, .argument) :: words) s = .ok ([], t, words.length + 1)) :
    g.read (word :: after) s = .ok (t, []) := by
  have hfrom : g.readFrom ⟨g.slots, s, []⟩ ((word, .argument) :: words) = .ok ⟨[], t, []⟩ := by
    rw [readFrom]
    · rw [hfill, ok_bind]
      dsimp only
      rw [hwords, List.drop_succ_cons, List.drop_length]
      rfl
    · rintro given ⟨⟩
    · rintro ⟨⟩
  rw [read, hroles, ok_bind, hfrom]
  rfl

/-- Arguments before a flag fill some slots. -/
lemma readFrom_before (hwords : words.any fun w => w.2.isFlag)
    (hfill : g.fill p.slots ((word, .argument) :: words) p.settings = .ok (rest, t, n + 1)) :
    g.readFrom p ((word, .argument) :: words) =
      g.readFrom ⟨rest, t, p.extras⟩ (words.drop n) := by
  rw [readFrom]
  · rw [hfill, ok_bind]
    dsimp only
    rw [if_pos hwords]
  · rintro given ⟨⟩
  · rintro ⟨⟩

lemma readFrom_error
    (hfill : g.fill p.slots ((word, .argument) :: words) p.settings = .error halt) :
    g.readFrom p ((word, .argument) :: words) = .error halt := by
  rw [readFrom]
  · rw [hfill, error_bind]
  · rintro given ⟨⟩
  · rintro ⟨⟩

end Grammar

end FlightUnits.CommandLine
