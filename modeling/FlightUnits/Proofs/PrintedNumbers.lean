import FlightUnits.Binary64.Layout
import FlightUnits.Binary64.Numeral
import FlightUnits.Proofs.ShortestDecimal
import Mathlib.Data.List.TakeWhile

/-!
# Printed numbers

The text of a number is read back as the number. Both layouts write the digits of the shortest
decimal with a point and zeros, or an exponent; none of that changes the decimal, and so the text is
rounded to the magnitude that the digits were chosen for.
-/

namespace FlightUnits.Binary64

/-! ### Characters -/

/-- Characters of decimals alone: digits, a point, signs and the letter of an exponent. -/
def IsNumeric (cs : List Char) : Prop := ∀ c ∈ cs, c.isDigit ∨ c ∈ ['.', '-', '+', 'e']

/-- Digits alone. -/
def IsDigits (cs : List Char) : Prop := ∀ c ∈ cs, c.isDigit

@[simp] lemma isNumeric_nil : IsNumeric [] := List.forall_mem_nil _

@[simp] lemma isNumeric_cons {c : Char} {cs : List Char} :
    IsNumeric (c :: cs) ↔ (c.isDigit ∨ c ∈ ['.', '-', '+', 'e']) ∧ IsNumeric cs :=
  List.forall_mem_cons

@[simp] lemma isNumeric_append {cs ds : List Char} :
    IsNumeric (cs ++ ds) ↔ IsNumeric cs ∧ IsNumeric ds :=
  List.forall_mem_append

lemma IsDigits.isNumeric {cs : List Char} (h : IsDigits cs) : IsNumeric cs :=
  fun c hc => .inl (h c hc)

lemma IsDigits.sublist {cs ds : List Char} (h : IsDigits ds) (hsub : cs.Sublist ds) : IsDigits cs :=
  fun c hc => h c (hsub.subset hc)

lemma IsDigits.append {cs ds : List Char} (hcs : IsDigits cs) (hds : IsDigits ds) :
    IsDigits (cs ++ ds) :=
  List.forall_mem_append.mpr ⟨hcs, hds⟩

lemma isDigits_replicate (n : Nat) : IsDigits (List.replicate n '0') := by
  intro c hc
  rw [List.eq_of_mem_replicate hc]
  rfl

lemma isDigits_toDigits (n : Nat) : IsDigits (Nat.toDigits 10 n) :=
  fun _ hc => Nat.isDigit_of_mem_toDigits (by decide) (by decide) hc

namespace Layout

lemma isDigits_leading (d : Decimal) : IsDigits (leading d).1 := by
  have hkept : IsDigits ((Nat.toDigits 10 d.digits).reverse.dropWhile (· == '0')).reverse := by
    refine (isDigits_toDigits d.digits).sublist ?_
    rw [← List.reverse_sublist, List.reverse_reverse]
    exact List.dropWhile_sublist _
  rw [leading]
  dsimp only
  split
  · exact isDigits_replicate 1
  · exact hkept

variable {digits : List Char} (h : IsDigits digits)

include h

lemma isNumeric_positional (e : Int) : IsNumeric (positional digits e) := by
  have hzeros (n : Nat) : IsNumeric (List.replicate n '0') := (isDigits_replicate n).isNumeric
  have htake (n : Nat) := (h.sublist (List.take_sublist n digits)).isNumeric
  have hdrop (n : Nat) := (h.sublist (List.drop_sublist n digits)).isNumeric
  rw [positional]
  split
  · simp [hzeros, h.isNumeric]
  · dsimp only
    split <;> simp [hzeros, htake, hdrop]

lemma isNumeric_scientific (width : Nat) (e : Int) : IsNumeric (scientific width digits e) := by
  have hzeros (n : Nat) : IsNumeric (List.replicate n '0') := (isDigits_replicate n).isNumeric
  have htake := (h.sublist (List.take_sublist 1 digits)).isNumeric
  have htail := (h.sublist (List.tail_sublist digits)).isNumeric
  have hpower := (isDigits_toDigits e.natAbs).isNumeric
  rw [scientific]
  split <;> split <;> simp [hzeros, htake, htail, hpower]

omit h

lemma isNumeric_finite (style : Layout) (s : Bool) (m : Magnitude) :
    IsNumeric (style.finite s m) := by
  have hdigits := isDigits_leading m.shortest
  rw [finite, isNumeric_append]
  constructor
  · cases s <;> simp
  · split
    · exact isNumeric_positional hdigits _
    · exact isNumeric_scientific hdigits _ _

/-- The characters of a number, finite or not. -/
lemma mem_write {style : Layout} {x : Binary64} {c : Char} (hc : c ∈ (style.write x).toList) :
    c.isDigit ∨ c ∈ ['.', '-', '+', 'e', 'i', 'n', 'f', 'a'] := by
  have hwords : ∀ word ∈ ["inf", "-inf", "nan"],
      word.toList ⊆ ['.', '-', '+', 'e', 'i', 'n', 'f', 'a'] := by decide
  cases x with
  | finite s m =>
    rw [write, String.toList_ofList] at hc
    refine (isNumeric_finite style s m c hc).imp_right fun hmark => ?_
    exact List.mem_append_left ['i', 'n', 'f', 'a'] hmark
  | infinite s =>
    cases s with
    | false => exact .inr (hwords "inf" (by decide) hc)
    | true => exact .inr (hwords "-inf" (by decide) hc)
  | nan mark => exact .inr (hwords "nan" (by decide) hc)

lemma not_mem_write (style : Layout) (x : Binary64) :
    ' ' ∉ (style.write x).toList ∧ ':' ∉ (style.write x).toList ∧
      '=' ∉ (style.write x).toList ∧ '\x7b' ∉ (style.write x).toList := by
  refine ⟨?_, ?_, ?_, ?_⟩ <;>
    · intro hc
      exact absurd (mem_write hc) (by decide)

end Layout

/-! ### Values -/

lemma ofQuotient_congr {n d n' d' : Nat} (s : Bool) (h : roundQuotient n d = roundQuotient n' d') :
    ofQuotient s n d = ofQuotient s n' d' := by
  have hmagnitude : Magnitude.ofQuotient? n d = Magnitude.ofQuotient? n' d' := by
    by_cases hlt : roundQuotient n d < limit
    · have hlt' : roundQuotient n' d' < limit := h ▸ hlt
      rw [Magnitude.ofQuotient?, Magnitude.ofQuotient?, dif_pos hlt, dif_pos hlt']
      exact congrArg some (Magnitude.ext h)
    · have hlt' : ¬ roundQuotient n' d' < limit := h ▸ hlt
      rw [Magnitude.ofQuotient?, Magnitude.ofQuotient?, dif_neg hlt, dif_neg hlt']
  delta ofQuotient
  rw [hmagnitude]

/-- Zeros after the digits of a decimal are a matter of its exponent. -/
lemma ofDecimal_mul_ten_pow (s : Bool) (n k : Nat) (e : Int) :
    ofDecimal s (n * 10 ^ k) e = ofDecimal s n (e + k) := by
  have hexponents : k + e.toNat + (-(e + k)).toNat = (e + k).toNat + (-e).toNat := by omega
  have hround : roundQuotient (n * 10 ^ k * Nat.pow 10 e.toNat * unitsInOne)
      (Nat.pow 10 (-e).toNat) =
      roundQuotient (n * Nat.pow 10 (e + k).toNat * unitsInOne) (Nat.pow 10 (-(e + k)).toNat) := by
    refine roundQuotient_congr (ten_pow_pos _) (ten_pow_pos _) ?_
    simp only [Nat.pow_eq]
    calc
      n * 10 ^ k * 10 ^ e.toNat * unitsInOne * 10 ^ (-(e + k)).toNat =
          n * unitsInOne * 10 ^ (k + e.toNat + (-(e + k)).toNat) := by ring
      _ = n * 10 ^ (e + k).toNat * unitsInOne * 10 ^ (-e).toNat := by
        rw [hexponents]
        ring
  rw [ofDecimal, ofDecimal]
  exact ofQuotient_congr s hround

lemma ofQuotient_zero (s : Bool) {d : Nat} (hd : 0 < d) : ofQuotient s 0 d = zero s := by
  have hround : roundQuotient 0 d = roundQuotient 0 1 :=
    roundQuotient_congr hd one_pos (by rw [Nat.zero_mul, Nat.zero_mul])
  rw [ofQuotient_congr s hround]
  cases s <;> decide +kernel

lemma ofQuotient_of_some {n d : Nat} {m : Magnitude} (s : Bool)
    (h : Magnitude.ofQuotient? n d = some m) : ofQuotient s n d = .finite s m := by
  delta ofQuotient
  rw [h]

lemma ofQuotient_of_le {n d : Nat} (s : Bool) (h : limit ≤ roundQuotient n d) :
    ofQuotient s n d = .infinite s := by
  have hnone : Magnitude.ofQuotient? n d = none := by
    rw [Magnitude.ofQuotient?, dif_neg (Nat.not_lt.mpr h)]
  delta ofQuotient
  rw [hnone]

/-- Only a number below `10 ^ 401` is finite. -/
lemma log10_add_le_of_finite {s t : Bool} {n : Nat} {e : Int} {m : Magnitude} (hn : n ≠ 0)
    (h : ofDecimal s n e = .finite t m) : (log10 n : Int) + e ≤ 400 := by
  by_contra hlarge
  have hexponents : 401 + (-e).toNat ≤ log10 n + e.toNat := by omega
  have hpower : 2 ^ 1024 ≤ 10 ^ 401 := by decide +kernel
  have hbound : 2 ^ (1024 + 1074) * Nat.pow 10 (-e).toNat ≤
      n * Nat.pow 10 e.toNat * unitsInOne := by
    rw [Nat.pow_eq, Nat.pow_eq, ← two_pow_mul_unitsInOne]
    calc
      2 ^ 1024 * unitsInOne * 10 ^ (-e).toNat = 2 ^ 1024 * 10 ^ (-e).toNat * unitsInOne :=
        Nat.mul_right_comm _ _ _
      _ ≤ 10 ^ (401 + (-e).toNat) * unitsInOne := by
        rw [pow_add 10 401]
        exact Nat.mul_le_mul_right _ (Nat.mul_le_mul_right _ hpower)
      _ ≤ 10 ^ (log10 n + e.toNat) * unitsInOne :=
        Nat.mul_le_mul_right _ (Nat.pow_le_pow_right (by decide) hexponents)
      _ ≤ n * 10 ^ e.toNat * unitsInOne := by
        rw [pow_add]
        exact Nat.mul_le_mul_right _ (Nat.mul_le_mul_right _ (ten_pow_log10_le hn))
  have hround := two_pow_le_roundQuotient (ten_pow_pos _) hbound
  rw [← scale_eq.2] at hround
  rw [ofDecimal, ofQuotient_of_le s hround] at h
  cases h

/-- No finite number is cut off when it is read, unless it has very many places. -/
lemma scaled_eq {s t : Bool} {n : Nat} {e : Int} {m : Magnitude} (he : -400 ≤ e)
    (h : ofDecimal s n e = .finite t m) : Numeral.scaled s n e = .finite t m := by
  rw [Numeral.scaled]
  by_cases hn : n = 0
  · subst hn
    rw [if_pos (Or.inl rfl), ← h, ofDecimal, Nat.zero_mul, Nat.zero_mul,
      ofQuotient_zero s (ten_pow_pos _)]
  · have hlarge := log10_add_le_of_finite hn h
    rw [if_neg (by omega), if_neg (by omega), h]

/-! ### Reading digits -/

namespace Numeral

open Text

/-- A text at which a run of digits ends. -/
def EndsRun (cs : List Char) : Prop := ∀ c ∈ cs.head?, digitValue? c = none ∧ c ≠ '_'

lemma digitValue?_of_isDigit {c : Char} (h : c.isDigit) : digitValue? c = some (c.toNat - 48) := by
  rw [Char.isDigit, Bool.and_eq_true, decide_eq_true_eq, decide_eq_true_eq] at h
  exact digitValue?_of_ascii (if_pos h)

lemma moreDigits_cons {c : Char} {cs : List Char} {n : Nat} (h : digitValue? c = some n) :
    moreDigits digitValue? (c :: cs) =
      (n :: (moreDigits digitValue? cs).1, (moreDigits digitValue? cs).2) := by
  cases cs with
  | nil => simp only [moreDigits, h]
  | cons next rest => rw [moreDigits, h]

lemma moreDigits_of_endsRun {cs : List Char} (h : EndsRun cs) :
    moreDigits digitValue? cs = ([], cs) := by
  cases cs with
  | nil => rw [moreDigits]
  | cons c rest =>
    obtain ⟨hnone, hne⟩ := h c rfl
    cases rest with
    | nil => rw [moreDigits, hnone]
    | cons next rest =>
      rw [moreDigits, hnone]
      cases digitValue? next with
      | none => rfl
      | some n => exact if_neg hne

lemma moreDigits_append {cs rest : List Char} (hcs : IsDigits cs) (hrest : EndsRun rest) :
    moreDigits digitValue? (cs ++ rest) = (cs.map fun c => c.toNat - 48, rest) := by
  induction cs with
  | nil => exact moreDigits_of_endsRun hrest
  | cons c cs ih =>
    obtain ⟨hc, hcs⟩ := List.forall_mem_cons.mp hcs
    rw [List.cons_append, moreDigits_cons (digitValue?_of_isDigit hc), ih hcs, List.map_cons]

lemma digitRun_append {cs rest : List Char} (hcs : IsDigits cs) (hne : cs ≠ [])
    (hrest : EndsRun rest) :
    digitRun digitValue? (cs ++ rest) = (cs.map fun c => c.toNat - 48, rest) := by
  obtain ⟨c, cs, rfl⟩ := List.exists_cons_of_ne_nil hne
  obtain ⟨hc, hcs⟩ := List.forall_mem_cons.mp hcs
  rw [List.cons_append, digitRun, digitValue?_of_isDigit hc]
  dsimp only
  rw [moreDigits_append hcs hrest, List.map_cons]

lemma ofDigits_map (cs : List Char) :
    ofDigits (cs.map fun c => c.toNat - 48) = Nat.ofDigitChars 10 cs 0 := by
  rw [ofDigits, List.foldl_map]
  rfl

lemma endsRun_nil : EndsRun [] := by
  rintro c ⟨⟩

lemma endsRun_cons {c : Char} {cs : List Char} (h : c = '.' ∨ c = 'e') : EndsRun (c :: cs) := by
  rintro d ⟨⟩
  rcases h with rfl | rfl <;> decide

/-- Zeros before digits are no matter. -/
lemma ofDigitChars_zeros_append (k : Nat) (cs : List Char) :
    Nat.ofDigitChars 10 (List.replicate k '0' ++ cs) 0 = Nat.ofDigitChars 10 cs 0 := by
  rw [Nat.ofDigitChars_append, Nat.ofDigitChars_replicate_zero, Nat.mul_zero]

/-- An exponent is read with its sign. -/
lemma exponent?_written (width : Nat) (e : Int) :
    exponent? digitValue? ('e' :: (if e < 0 then '-' else '+') ::
      (List.replicate width '0' ++ Nat.toDigits 10 e.natAbs)) = some e := by
  have hdigits : IsDigits (List.replicate width '0' ++ Nat.toDigits 10 e.natAbs) :=
    (isDigits_replicate width).append (isDigits_toDigits _)
  have hne : List.replicate width '0' ++ Nat.toDigits 10 e.natAbs ≠ [] := by
    simp [Nat.toDigits_ne_nil]
  have hvalue : Nat.ofDigitChars 10 (List.replicate width '0' ++ Nat.toDigits 10 e.natAbs) 0 =
      e.natAbs := by
    rw [ofDigitChars_zeros_append, Nat.ofDigitChars_ten_toDigits]
  generalize List.replicate width '0' ++ Nat.toDigits 10 e.natAbs = digits at hdigits hne hvalue
  have hrun := digitRun_append hdigits hne endsRun_nil
  rw [List.append_nil] at hrun
  rw [← ofDigits_map] at hvalue
  rw [exponent?, if_pos (Or.inl rfl)]
  obtain ⟨c, cs, rfl⟩ := List.exists_cons_of_ne_nil hne
  rw [List.map_cons] at hrun hvalue
  by_cases he : e < 0
  · rw [if_pos he]
    simp only [sign, hrun, hvalue, if_true]
    congr 1
    omega
  · rw [if_neg he]
    simp only [sign, hrun, hvalue]
    simp
    omega

/-- What the digits before and after a point are read as, with an exponent or without. -/
lemma decimal?_point {whole fraction rest : List Char} {e : Int} (s : Bool)
    (hwhole : IsDigits whole) (hne : whole ≠ []) (hfraction : IsDigits fraction)
    (hne' : fraction ≠ []) (hrest : EndsRun rest) (he : exponent? digitValue? rest = some e) :
    decimal? digitValue? s (whole ++ '.' :: (fraction ++ rest)) =
      some (scaled s (Nat.ofDigitChars 10 (whole ++ fraction) 0) (e - fraction.length)) := by
  rw [decimal?, digitRun_append hwhole hne (endsRun_cons (.inl rfl))]
  simp only [digitRun_append hfraction hne' hrest]
  rw [he, ← List.map_append, ofDigits_map, List.length_map, if_neg (by simp [hne])]
  rfl

lemma decimal?_whole {whole rest : List Char} {e : Int} (s : Bool) (hwhole : IsDigits whole)
    (hne : whole ≠ []) (hrest : EndsRun rest) (hpoint : rest.head? ≠ some '.')
    (he : exponent? digitValue? rest = some e) :
    decimal? digitValue? s (whole ++ rest) =
      some (scaled s (Nat.ofDigitChars 10 whole 0) e) := by
  rw [decimal?, digitRun_append hwhole hne hrest]
  dsimp only
  split
  · next after => exact absurd rfl hpoint
  · dsimp only
    rw [he, List.append_nil, ofDigits_map, if_neg (by simp [hne])]
    simp

end Numeral

/-! ### Reading layouts back -/

namespace Layout

open Numeral Text

lemma eq_append_zeros (cs : List Char) :
    cs = (cs.reverse.dropWhile (· == '0')).reverse ++
      List.replicate (cs.reverse.takeWhile (· == '0')).length '0' := by
  have hzeros : ∀ c ∈ cs.reverse.takeWhile (· == '0'), c = '0' := by
    intro c hc
    simpa using List.mem_takeWhile_imp hc
  have hsplit := List.takeWhile_append_dropWhile (p := (· == '0')) (l := cs.reverse)
  rw [List.eq_replicate_of_mem hzeros] at hsplit
  rw [← List.reverse_replicate, ← List.reverse_append, hsplit, List.reverse_reverse]

/-- The digits that are written and the exponent of the first one tell the decimal. -/
lemma ofDecimal_leading (s : Bool) (d : Decimal) :
    (leading d).1 ≠ [] ∧ d.exponent ≤ (leading d).2 + 1 - (leading d).1.length ∧
      ofDecimal s (Nat.ofDigitChars 10 (leading d).1 0)
        ((leading d).2 + 1 - (leading d).1.length) = ofDecimal s d.digits d.exponent := by
  have hdigits := eq_append_zeros (Nat.toDigits 10 d.digits)
  have hvalue := Nat.ofDigitChars_ten_toDigits (n := d.digits)
  rw [hdigits, Nat.ofDigitChars_append, Nat.ofDigitChars_replicate_zero] at hvalue
  have hlength := congrArg List.length hdigits
  rw [List.length_append, List.length_replicate] at hlength
  rw [leading]
  dsimp only
  generalize ((Nat.toDigits 10 d.digits).reverse.takeWhile (· == '0')).length = k at hvalue hlength
  generalize ((Nat.toDigits 10 d.digits).reverse.dropWhile (· == '0')).reverse = kept
    at hvalue hlength
  by_cases hkept : kept = []
  · subst hkept
    have hzero : d.digits = 0 := by
      rw [← hvalue, Nat.ofDigitChars_nil, Nat.mul_zero]
    rw [hzero, Nat.toDigits_zero]
    have hexponent : d.exponent + (['0'].length : Nat) - 1 + 1 - (['0'].length : Nat) =
        d.exponent := by
      rw [List.length_singleton]
      omega
    refine ⟨List.cons_ne_nil _ _, hexponent.ge, ?_⟩
    rw [if_pos List.isEmpty_nil, hexponent]
    rfl
  · have hexponent : d.exponent + (Nat.toDigits 10 d.digits).length - 1 + 1 - kept.length =
        d.exponent + k := by omega
    rw [if_neg (by simp [hkept]), hexponent, ← ofDecimal_mul_ten_pow, Nat.mul_comm, hvalue]
    exact ⟨hkept, by omega, rfl⟩

variable {digits : List Char} {e : Int} {s : Bool}

/-- What is read from characters: a number of places that is not too large, and the decimal that
they stand for. -/
def IsReadAs (s : Bool) (cs : List Char) (n : Nat) (e : Int) : Prop :=
  ∃ n' e', decimal? digitValue? s cs = some (scaled s n' e') ∧ min e (-1) ≤ e' ∧
    ofDecimal s n' e' = ofDecimal s n e

/-- A value below one: zeros stand between the point and the digits. -/
lemma isReadAs_positional_of_neg (hdigits : IsDigits digits) (hne : digits ≠ []) (he : e < 0) :
    IsReadAs s (positional digits e) (Nat.ofDigitChars 10 digits 0) (e + 1 - digits.length) := by
  have hzeros : IsDigits (List.replicate (-e - 1).toNat '0' ++ digits) :=
    (isDigits_replicate _).append hdigits
  have hread := decimal?_point s (isDigits_replicate 1) (List.cons_ne_nil _ _) hzeros
    (by simp [hne]) endsRun_nil rfl
  have hexponent : (0 : Int) - (List.replicate (-e - 1).toNat '0' ++ digits).length =
      e + 1 - digits.length := by
    rw [List.length_append, List.length_replicate]
    omega
  rw [List.append_nil, ofDigitChars_zeros_append, ofDigitChars_zeros_append, hexponent] at hread
  rw [positional, if_pos he]
  exact ⟨_, _, hread, min_le_left _ _, rfl⟩

/-- A value with no digit for the fraction: zeros fill up the places before the point. -/
lemma isReadAs_positional_of_length_le (hdigits : IsDigits digits) (hne : digits ≠ [])
    (he : ¬ e < 0) (hlength : digits.length ≤ e.toNat + 1) :
    IsReadAs s (positional digits e) (Nat.ofDigitChars 10 digits 0) (e + 1 - digits.length) := by
  have hwhole : IsDigits (digits ++ List.replicate (e.toNat + 1 - digits.length) '0') :=
    hdigits.append (isDigits_replicate _)
  have hread := decimal?_point s hwhole (by simp [hne]) (isDigits_replicate 1)
    (List.cons_ne_nil _ _) endsRun_nil rfl
  rw [List.append_nil, Nat.ofDigitChars_append, Nat.ofDigitChars_append,
    Nat.ofDigitChars_replicate_zero, Nat.ofDigitChars_replicate_zero, ← Nat.mul_assoc,
    ← pow_add, Nat.mul_comm] at hread
  rw [positional, if_neg he]
  dsimp only
  rw [List.drop_eq_nil_of_le hlength, List.take_of_length_le hlength, if_pos List.isEmpty_nil]
  refine ⟨_, _, hread, min_le_right _ _, ?_⟩
  rw [ofDecimal_mul_ten_pow]
  congr 1
  simp
  omega

lemma isReadAs_positional (hdigits : IsDigits digits) (hne : digits ≠ []) :
    IsReadAs s (positional digits e) (Nat.ofDigitChars 10 digits 0) (e + 1 - digits.length) := by
  by_cases he : e < 0
  · exact isReadAs_positional_of_neg hdigits hne he
  · by_cases hlength : digits.length ≤ e.toNat + 1
    · exact isReadAs_positional_of_length_le hdigits hne he hlength
    · have htake : IsDigits (digits.take (e.toNat + 1)) := hdigits.sublist (List.take_sublist _ _)
      have hdrop : IsDigits (digits.drop (e.toNat + 1)) := hdigits.sublist (List.drop_sublist _ _)
      have hrest : digits.drop (e.toNat + 1) ≠ [] := by
        intro hnil
        exact hlength (List.drop_eq_nil_iff.mp hnil)
      have hread := decimal?_point s htake (by simp [hne]) hdrop hrest endsRun_nil rfl
      have hzeros : e.toNat + 1 - digits.length = 0 := by omega
      have hexponent : (0 : Int) - (digits.drop (e.toNat + 1)).length = e + 1 - digits.length := by
        rw [List.length_drop]
        omega
      rw [List.append_nil, List.take_append_drop, hexponent] at hread
      rw [positional, if_neg he]
      dsimp only
      rw [hzeros, List.replicate_zero, List.append_nil, if_neg (by simpa using hrest)]
      exact ⟨_, _, hread, min_le_left _ _, rfl⟩

lemma isReadAs_scientific (width : Nat) (hdigits : IsDigits digits) (hne : digits ≠ []) :
    IsReadAs s (scientific width digits e) (Nat.ofDigitChars 10 digits 0)
      (e + 1 - digits.length) := by
  obtain ⟨c, cs, rfl⟩ := List.exists_cons_of_ne_nil hne
  obtain ⟨hc, hcs⟩ := List.forall_mem_cons.mp hdigits
  have hfirst : IsDigits [c] := List.forall_mem_singleton.mpr hc
  have hexponent := exponent?_written (width - (Nat.toDigits 10 e.natAbs).length) e
  rw [scientific]
  by_cases hnil : cs = []
  · subst hnil
    have hread := decimal?_whole s hfirst (List.cons_ne_nil _ _) (endsRun_cons (.inr rfl))
      (by simp) hexponent
    refine ⟨_, _, hread, ?_, ?_⟩
    · simp
    · simp
  · have hread := decimal?_point s hfirst (List.cons_ne_nil _ _) hcs hnil
      (endsRun_cons (.inr rfl)) hexponent
    have hplaces : e - cs.length = e + 1 - (c :: cs).length := by
      rw [List.length_cons]
      omega
    rw [hplaces] at hread
    have hlength : (c :: cs).length ≠ 1 := by simp [hnil]
    rw [if_neg hlength]
    exact ⟨_, _, hread, min_le_left _ _, rfl⟩

lemma startsWith_digit {digits : List Char} (hdigits : IsDigits digits) (hne : digits ≠ [])
    (e : Int) (width : Nat) :
    (∃ c cs, positional digits e = c :: cs ∧ c.isDigit) ∧
      ∃ c cs, scientific width digits e = c :: cs ∧ c.isDigit := by
  obtain ⟨c, cs, rfl⟩ := List.exists_cons_of_ne_nil hne
  obtain ⟨hc, -⟩ := List.forall_mem_cons.mp hdigits
  refine ⟨?_, c, _, rfl, hc⟩
  by_cases he : e < 0
  · exact ⟨'0', _, if_pos he, rfl⟩
  · exact ⟨c, _, if_neg he, hc⟩

lemma finite_eq (style : Layout) (s : Bool) (m : Magnitude) :
    style.finite s m = (if s then ['-'] else []) ++
      if style.leastExponent ≤ (leading m.shortest).2 ∧ (leading m.shortest).2 < 16 then
        positional (leading m.shortest).1 (leading m.shortest).2
      else scientific style.exponentWidth (leading m.shortest).1 (leading m.shortest).2 := by
  rw [finite]

/-- The characters after the sign start with a digit and are read back. -/
lemma decimal?_finite (style : Layout) (s : Bool) (m : Magnitude) :
    ∃ c cs, style.finite s m = (if s then ['-'] else []) ++ c :: cs ∧ c.isDigit ∧
      decimal? digitValue? s (c :: cs) = some (.finite s m) := by
  obtain ⟨hread, hplaces⟩ := m.isReadFrom_shortest
  obtain ⟨hne, hexponent, hvalue⟩ := ofDecimal_leading s m.shortest
  have hdigits := isDigits_leading m.shortest
  have hshortest : ofDecimal s m.shortest.digits m.shortest.exponent = .finite s m := by
    rw [Magnitude.isReadFrom, beq_iff_eq] at hread
    rw [ofDecimal, ofQuotient_of_some s hread]
  rw [hshortest] at hvalue
  rw [finite_eq]
  generalize leading m.shortest = written at hne hexponent hvalue hdigits
  obtain ⟨digits, e⟩ := written
  dsimp only at hne hexponent hvalue hdigits ⊢
  have hread {cs : List Char} (h : IsReadAs s cs (Nat.ofDigitChars 10 digits 0)
      (e + 1 - digits.length)) : decimal? digitValue? s cs = some (.finite s m) := by
    obtain ⟨n', e', hdecimal, he', hnumber⟩ := h
    rw [hdecimal, scaled_eq (by omega) (hnumber.trans hvalue)]
  obtain ⟨hpositional, hscientific⟩ := startsWith_digit hdigits hne e style.exponentWidth
  by_cases hposition : style.leastExponent ≤ e ∧ e < 16
  · obtain ⟨c, cs, heq, hc⟩ := hpositional
    have hcs := hread (isReadAs_positional hdigits hne)
    rw [heq] at hcs
    rw [if_pos hposition, heq]
    exact ⟨c, cs, rfl, hc, hcs⟩
  · obtain ⟨c, cs, heq, hc⟩ := hscientific
    have hcs := hread (isReadAs_scientific style.exponentWidth hdigits hne)
    rw [heq] at hcs
    rw [if_neg hposition, heq]
    exact ⟨c, cs, rfl, hc, hcs⟩

lemma not_isBlank {c : Char} (h : c.isDigit ∨ c ∈ ['.', '-', '+', 'e']) : ¬ isBlank c := by
  have hmarks : ∀ c ∈ ['.', '-', '+', 'e'], ¬ isBlank c := by simp [isBlank]
  rcases h with h | h
  · rw [Char.isDigit, Bool.and_eq_true, decide_eq_true_eq, decide_eq_true_eq] at h
    have hlow : 48 ≤ c.toNat := h.1
    have hhigh : c.toNat ≤ 57 := h.2
    simp [isBlank]
    omega
  · exact hmarks c h

lemma trimBlanks_eq {cs : List Char} (h : IsNumeric cs) : trimBlanks cs = cs := by
  have hkept {ds : List Char} (hds : ∀ c ∈ ds, ¬ isBlank c) : ds.dropWhile isBlank = ds := by
    cases ds with
    | nil => rfl
    | cons c ds => exact List.dropWhile_cons_of_neg (hds c List.mem_cons_self)
  have hblank : ∀ c ∈ cs, ¬ isBlank c := fun c hc => not_isBlank (h c hc)
  rw [trimBlanks, hkept hblank, hkept fun c hc => hblank c (List.mem_reverse.mp hc),
    List.reverse_reverse]

lemma sign_of_isDigit {c : Char} {cs : List Char} (hc : c.isDigit) :
    sign (c :: cs) = (false, c :: cs) := by
  rw [sign.eq_def]
  split
  · next h => exact absurd ((List.cons.inj h).1 ▸ hc) (by decide)
  · next h => exact absurd ((List.cons.inj h).1 ▸ hc) (by decide)
  · rfl

lemma toLower_of_isDigit {c : Char} (hc : c.isDigit) : c.toLower = c := by
  rw [Char.isDigit, Bool.and_eq_true, decide_eq_true_eq, decide_eq_true_eq] at hc
  refine dif_neg ?_
  rintro ⟨hlow, -⟩
  exact absurd (UInt32.le_trans hlow hc.2) (by decide)

/-- A text that starts with a digit is none of the words for special numbers. -/
lemma bare?_of_isDigit {c : Char} {cs : List Char} (s : Bool) (hc : c.isDigit) :
    bare? digitValue? ((if s then ['-'] else []) ++ c :: cs) =
      decimal? digitValue? s (c :: cs) := by
  have hword {word : String} (h : word.toList.head?.any Char.isDigit = false) :
      String.ofList ((c :: cs).map Char.toLower) ≠ word := by
    rintro rfl
    rw [String.toList_ofList, List.map_cons, toLower_of_isDigit hc, List.head?_cons,
      Option.any_some, hc] at h
    cases h
  have hsign : sign ((if s then ['-'] else []) ++ c :: cs) = (s, c :: cs) := by
    cases s with
    | false => exact sign_of_isDigit hc
    | true => rfl
  rw [bare?, hsign]
  dsimp only
  rw [if_neg, if_neg (hword rfl)]
  rintro (h | h)
  · exact hword rfl h
  · exact hword rfl h

/-- The text of a number is read back as the number. -/
theorem ofText?_write (style : Layout) {x : Binary64} (hx : ¬ x.isNaN) :
    ofText? (style.write x) = some x := by
  cases x with
  | finite s m =>
    obtain ⟨c, cs, heq, hc, hread⟩ := decimal?_finite style s m
    have htrim := trimBlanks_eq (isNumeric_finite style s m)
    rw [heq] at htrim
    rw [write, heq, ofText?, String.toList_ofList, htrim, bare?_of_isDigit s hc, hread]
  | infinite s =>
    have hwords : ofText? "inf" = some (.infinite false) ∧
        ofText? "-inf" = some (.infinite true) := by decide +kernel
    cases s with
    | false => exact hwords.1
    | true => exact hwords.2
  | nan => exact absurd rfl hx

end Layout

end FlightUnits.Binary64
