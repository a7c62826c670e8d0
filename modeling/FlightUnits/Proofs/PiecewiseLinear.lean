import FlightUnits.Flight.Atmosphere
import FlightUnits.Proofs.FallibleSteps
import Mathlib.Algebra.Order.Field.Rat
import Mathlib.Algebra.Order.Field.Basic
import Mathlib.Order.Interval.Set.UnorderedInterval
import Mathlib.Tactic.GCongr
import Mathlib.Tactic.Linarith
import Mathlib.Tactic.Ring

/-!
# Interpolation is piecewise linear

Over the rationals, and for samples with strictly ascending inputs, interpolation follows the
polygonal line through the samples. The line is a recursion over the samples, so what is true of it
is proved by induction along them; that the two segments at a knot agree there is the step of every
such induction. Interpolation has a result exactly in the range of the table, because there the
search for enclosing samples succeeds.
-/

namespace FlightUnits.Flight

/-- The line through two points. -/
def line (p q : Rat × Rat) (x : Rat) : Rat := p.2 + (x - p.1) / (q.1 - p.1) * (q.2 - p.2)

/-- The polygonal line from a point through the points that follow, level after the last. -/
def polyline : Rat × Rat → List (Rat × Rat) → Rat → Rat
  | p, [], _ => p.2
  | p, q :: rest, x => if x ≤ q.1 then line p q x else polyline q rest x

variable {p q : Rat × Rat} {rest samples : List (Rat × Rat)} {x y : Rat}

lemma line_left (p q : Rat × Rat) : line p q p.1 = p.2 := by
  rw [line, sub_self, zero_div, zero_mul, add_zero]

lemma line_right (h : p.1 < q.1) : line p q q.1 = q.2 := by
  rw [line, div_self (sub_pos.mpr h).ne', one_mul, add_sub_cancel]

lemma line_mono (h : p.1 < q.1) (hout : p.2 ≤ q.2) (hxy : x ≤ y) : line p q x ≤ line p q y := by
  have hwidth : 0 ≤ q.1 - p.1 := (sub_pos.mpr h).le
  have hrise : 0 ≤ q.2 - p.2 := sub_nonneg.mpr hout
  unfold line
  gcongr

lemma line_strictMono (h : p.1 < q.1) (hout : p.2 < q.2) (hxy : x < y) :
    line p q x < line p q y := by
  have hwidth : 0 < q.1 - p.1 := sub_pos.mpr h
  have hrise : 0 < q.2 - p.2 := sub_pos.mpr hout
  unfold line
  gcongr

/-- A sample with the opposite output. -/
def mirrored (p : Rat × Rat) : Rat × Rat := (p.1, -p.2)

lemma line_mirrored (p q : Rat × Rat) (x : Rat) :
    line (mirrored p) (mirrored q) x = -line p q x := by
  simp only [line, mirrored]
  ring

lemma polyline_mirrored (p : Rat × Rat) (rest : List (Rat × Rat)) (x : Rat) :
    polyline (mirrored p) (rest.map mirrored) x = -polyline p rest x := by
  induction rest generalizing p with
  | nil => rfl
  | cons q rest ih =>
    rw [List.map_cons, polyline, polyline, line_mirrored, ih]
    exact (apply_ite Neg.neg (x ≤ q.1) _ _).symm

/-- Samples with strictly ascending inputs. -/
abbrev IsAscending (samples : List (Rat × Rat)) : Prop := (samples.map Prod.fst).Pairwise (· < ·)

lemma isAscending_cons :
    IsAscending (p :: rest) ↔ (∀ q ∈ rest, p.1 < q.1) ∧ IsAscending rest := by
  rw [IsAscending, List.map_cons, List.pairwise_cons, List.forall_mem_map]

lemma IsAscending.start_le (h : IsAscending (p :: rest)) (hq : q ∈ p :: rest) : p.1 ≤ q.1 := by
  rcases List.mem_cons.mp hq with rfl | hq
  · exact le_rfl
  · exact ((isAscending_cons.mp h).1 q hq).le

lemma polyline_start (h : IsAscending (p :: rest)) : polyline p rest p.1 = p.2 := by
  cases rest with
  | nil => rfl
  | cons q rest =>
    have hpq := (isAscending_cons.mp h).1 q List.mem_cons_self
    rw [polyline, if_pos hpq.le, line_left]

/-- A knot belongs to two segments, which agree there. -/
lemma polyline_of_le (h : IsAscending (p :: q :: rest)) (hx : q.1 ≤ x) :
    polyline p (q :: rest) x = polyline q rest x := by
  obtain ⟨hp, hrest⟩ := isAscending_cons.mp h
  rw [polyline]
  split
  next hle =>
    obtain rfl := le_antisymm hle hx
    rw [line_right (hp q List.mem_cons_self), polyline_start hrest]
  next => rfl

lemma polyline_of_mem (h : IsAscending (p :: rest)) (hq : q ∈ p :: rest) :
    polyline p rest q.1 = q.2 := by
  induction rest generalizing p with
  | nil =>
    obtain rfl := List.mem_singleton.mp hq
    rfl
  | cons r rest ih =>
    rcases List.mem_cons.mp hq with rfl | hq
    · exact polyline_start h
    · have hrest := (isAscending_cons.mp h).2
      rw [polyline_of_le h (hrest.start_le hq), ih hrest hq]

lemma polyline_of_neighbours {a b : Rat × Rat} (h : IsAscending (p :: rest))
    (hab : (a, b) ∈ (p :: rest).zip rest) (ha : a.1 ≤ x) (hb : x ≤ b.1) :
    polyline p rest x = line a b x := by
  induction rest generalizing p with
  | nil => exact absurd hab List.not_mem_nil
  | cons q rest ih =>
    rcases List.mem_cons.mp hab with heq | hab
    · obtain ⟨rfl, rfl⟩ := Prod.mk.inj heq
      rw [polyline, if_pos hb]
    · have hrest := (isAscending_cons.mp h).2
      have hq : q.1 ≤ x := (hrest.start_le (List.of_mem_zip hab).1).trans ha
      rw [polyline_of_le h hq, ih hrest hab]

/-- Ascending outputs. -/
abbrev IsRising (samples : List (Rat × Rat)) : Prop := (samples.map Prod.snd).Pairwise (· ≤ ·)

lemma isRising_cons : IsRising (p :: rest) ↔ (∀ q ∈ rest, p.2 ≤ q.2) ∧ IsRising rest := by
  rw [IsRising, List.map_cons, List.pairwise_cons, List.forall_mem_map]

lemma le_polyline (h : IsAscending (p :: rest)) (hout : IsRising (p :: rest)) (hx : p.1 ≤ x) :
    p.2 ≤ polyline p rest x := by
  induction rest generalizing p with
  | nil => exact le_rfl
  | cons q rest ih =>
    obtain ⟨hp, hrest⟩ := isAscending_cons.mp h
    obtain ⟨hpout, hrestout⟩ := isRising_cons.mp hout
    have hpq : p.1 < q.1 := hp q List.mem_cons_self
    have hout : p.2 ≤ q.2 := hpout q List.mem_cons_self
    rcases le_total x q.1 with hle | hle
    · rw [polyline, if_pos hle]
      calc
        p.2 = line p q p.1 := (line_left p q).symm
        _ ≤ line p q x := line_mono hpq hout hx
    · rw [polyline_of_le h hle]
      exact hout.trans (ih hrest hrestout hle)

lemma polyline_mono (h : IsAscending (p :: rest)) (hout : IsRising (p :: rest)) (hxy : x ≤ y) :
    polyline p rest x ≤ polyline p rest y := by
  induction rest generalizing p with
  | nil => exact le_rfl
  | cons q rest ih =>
    obtain ⟨hp, hrest⟩ := isAscending_cons.mp h
    obtain ⟨hpout, hrestout⟩ := isRising_cons.mp hout
    have hpq : p.1 < q.1 := hp q List.mem_cons_self
    have hout : p.2 ≤ q.2 := hpout q List.mem_cons_self
    rcases le_total x q.1 with hx | hx
    · rcases le_total y q.1 with hy | hy
      · rw [polyline, if_pos hx, polyline, if_pos hy]
        exact line_mono hpq hout hxy
      · -- the two values lie on different sides of the knot
        rw [polyline, if_pos hx, polyline_of_le h hy]
        calc
          line p q x ≤ line p q q.1 := line_mono hpq hout hx
          _ = q.2 := line_right hpq
          _ ≤ polyline q rest y := le_polyline hrest hrestout hy
    · rw [polyline_of_le h hx, polyline_of_le h (hx.trans hxy)]
      exact ih hrest hrestout

/-- Strictly ascending outputs. -/
abbrev IsStrictlyRising (samples : List (Rat × Rat)) : Prop :=
  (samples.map Prod.snd).Pairwise (· < ·)

lemma isStrictlyRising_cons :
    IsStrictlyRising (p :: rest) ↔ (∀ q ∈ rest, p.2 < q.2) ∧ IsStrictlyRising rest := by
  rw [IsStrictlyRising, List.map_cons, List.pairwise_cons, List.forall_mem_map]

/-- After the last sample the line is level, so it ascends strictly up to there only. -/
lemma polyline_strictMono (h : IsAscending (p :: rest)) (hout : IsStrictlyRising (p :: rest))
    (hxy : x < y) (hlast : ∃ r ∈ rest, y ≤ r.1) : polyline p rest x < polyline p rest y := by
  induction rest generalizing p x with
  | nil =>
    obtain ⟨r, hr, -⟩ := hlast
    exact absurd hr List.not_mem_nil
  | cons q rest ih =>
    obtain ⟨hp, hrest⟩ := isAscending_cons.mp h
    obtain ⟨hpout, hrestout⟩ := isStrictlyRising_cons.mp hout
    have hpq : p.1 < q.1 := hp q List.mem_cons_self
    have hout : p.2 < q.2 := hpout q List.mem_cons_self
    rcases le_or_gt y q.1 with hy | hy
    · rw [polyline, if_pos (hxy.le.trans hy), polyline, if_pos hy]
      exact line_strictMono hpq hout hxy
    · have hlast : ∃ r ∈ rest, y ≤ r.1 := by
        obtain ⟨r, hr, hyr⟩ := hlast
        rcases List.mem_cons.mp hr with rfl | hr
        · exact absurd hyr hy.not_ge
        · exact ⟨r, hr, hyr⟩
      rw [polyline_of_le h hy.le]
      rcases le_total x q.1 with hx | hx
      · -- the two inputs lie on different sides of the knot
        rw [polyline, if_pos hx]
        calc
          line p q x ≤ line p q q.1 := line_mono hpq hout.le hx
          _ = q.2 := line_right hpq
          _ = polyline q rest q.1 := (polyline_start hrest).symm
          _ < polyline q rest y := ih hrest hrestout hy hlast
      · rw [polyline_of_le h hx]
        exact ih hrest hrestout hxy hlast

/-! ### Interpolation -/

lemma onLine_exact (h : p.1 < q.1) : onLine x p q = .ok (line p q x) := by
  have hdiv : Scalar.div (x - p.1) (q.1 - p.1) = .ok ((x - p.1) / (q.1 - p.1)) :=
    if_neg (sub_pos.mpr h).ne'
  change (Scalar.div (x - p.1) (q.1 - p.1) >>= _) = _
  rw [hdiv]
  rfl

/-- From the first sample on, the samples that enclose an input are found before it is passed. -/
lemma exists_enclosing? (h : IsAscending (p :: rest)) (hx : p.1 ≤ x)
    (hlast : ∃ r ∈ rest, x ≤ r.1) : ∃ s, enclosing? x (p :: rest) = some s := by
  induction rest generalizing p with
  | nil =>
    obtain ⟨r, hr, -⟩ := hlast
    exact absurd hr List.not_mem_nil
  | cons q rest ih =>
    rw [enclosing?]
    split
    next => exact ⟨_, rfl⟩
    next hout =>
      have hq : q.1 < x := by
        by_contra hle
        exact hout (Bool.and_eq_true_iff.mpr ⟨decide_eq_true hx, decide_eq_true (not_lt.mp hle)⟩)
      obtain ⟨r, hr, hxr⟩ := hlast
      rcases List.mem_cons.mp hr with rfl | hr
      · exact absurd hxr hq.not_ge
      · exact ih (isAscending_cons.mp h).2 hq.le ⟨r, hr, hxr⟩

lemma IsAscending.lt_of_neighbours {a b : Rat × Rat} (h : IsAscending samples)
    (hab : (a, b) ∈ samples.zip samples.tail) : a.1 < b.1 := by
  induction samples with
  | nil => exact absurd hab List.not_mem_nil
  | cons p rest ih =>
    obtain ⟨hp, hrest⟩ := isAscending_cons.mp h
    cases rest with
    | nil => exact absurd hab List.not_mem_nil
    | cons q rest =>
      rcases List.mem_cons.mp hab with heq | hab
      · obtain ⟨rfl, rfl⟩ := Prod.mk.inj heq
        exact hp b List.mem_cons_self
      · exact ih hrest hab

lemma IsAscending.le_last {last : Rat × Rat} (h : IsAscending samples)
    (hlast : samples.getLast? = some last) (hp : p ∈ samples) : p.1 ≤ last.1 := by
  obtain ⟨init, rfl⟩ := List.getLast?_eq_some_iff.mp hlast
  rw [IsAscending, List.map_append, List.pairwise_append] at h
  rcases List.mem_append.mp hp with hp | hp
  · exact (h.2.2 p.1 (List.mem_map_of_mem hp) last.1 List.mem_cons_self).le
  · exact (List.mem_singleton.mp hp) ▸ le_rfl

lemma interpolate_eq_polyline (h : IsAscending (p :: q :: rest)) (hx : p.1 ≤ x)
    (hlast : ∃ r ∈ q :: rest, x ≤ r.1) :
    interpolate x (p :: q :: rest) = .ok (polyline p (q :: rest) x) := by
  obtain ⟨⟨a, b⟩, hab⟩ := exists_enclosing? h hx hlast
  obtain ⟨hmem, hlow, hhigh⟩ := of_enclosing? hab
  rw [interpolate, hab]
  dsimp only
  rw [onLine_exact (h.lt_of_neighbours hmem),
    polyline_of_neighbours h hmem (of_decide_eq_true hlow) (of_decide_eq_true hhigh)]
  rfl

lemma interpolate_of_outside {last : Rat × Rat} (h : IsAscending (p :: q :: rest))
    (hlast : (p :: q :: rest).getLast? = some last) (hx : ¬ (p.1 ≤ x ∧ x ≤ last.1)) :
    interpolate x (p :: q :: rest) = .error (.outsideRange x p.1 last.1) := by
  have hnone : enclosing? x (p :: q :: rest) = none := by
    by_contra hsome
    obtain ⟨⟨a, b⟩, hab⟩ := Option.ne_none_iff_exists'.mp hsome
    obtain ⟨hmem, hlow, hhigh⟩ := of_enclosing? hab
    obtain ⟨ha, hb⟩ := List.of_mem_zip hmem
    have hpa : p.1 ≤ a.1 := h.start_le ha
    have hbl : b.1 ≤ last.1 := h.le_last hlast (List.mem_cons_of_mem p hb)
    exact hx ⟨hpa.trans (of_decide_eq_true hlow), (of_decide_eq_true hhigh).trans hbl⟩
  have hend : (q :: rest).getLastD q = last := by
    rw [List.getLastD_eq_getLast?, ← List.getLast?_cons_cons (a := p), hlast, Option.getD_some]
  rw [interpolate, hnone]
  dsimp only
  rw [hend]
  rfl

/-- Between two samples the line through them lies between their outputs. -/
lemma line_mem_uIcc (h : p.1 < q.1) (hp : p.1 ≤ x) (hq : x ≤ q.1) :
    line p q x ∈ Set.uIcc p.2 q.2 := by
  have hrising {a b : Rat × Rat} (hab : a.1 < b.1) (hout : a.2 ≤ b.2) (ha : a.1 ≤ x)
      (hb : x ≤ b.1) : a.2 ≤ line a b x ∧ line a b x ≤ b.2 := by
    have hleft := line_mono hab hout ha
    have hright := line_mono hab hout hb
    rw [line_left] at hleft
    rw [line_right hab] at hright
    exact ⟨hleft, hright⟩
  rw [Set.mem_uIcc]
  rcases le_total p.2 q.2 with hout | hout
  · exact .inl (hrising h hout hp hq)
  · have hneg : -p.2 ≤ line (mirrored p) (mirrored q) x ∧ line (mirrored p) (mirrored q) x ≤ -q.2 :=
      hrising h (neg_le_neg hout) hp hq
    rw [line_mirrored] at hneg
    exact .inr ⟨neg_le_neg_iff.mp hneg.2, neg_le_neg_iff.mp hneg.1⟩

/-- Descending outputs. -/
abbrev IsFalling (samples : List (Rat × Rat)) : Prop := (samples.map Prod.snd).Pairwise (· ≥ ·)

lemma isAscending_mirrored (h : IsAscending samples) : IsAscending (samples.map mirrored) := by
  rw [IsAscending, List.map_map]
  exact h

lemma IsFalling.isRising_mirrored (h : IsFalling samples) : IsRising (samples.map mirrored) := by
  rw [IsFalling, List.pairwise_map] at h
  rw [IsRising, List.map_map, List.pairwise_map]
  exact h.imp neg_le_neg

lemma polyline_anti (h : IsAscending (p :: rest)) (hout : IsFalling (p :: rest)) (hxy : x ≤ y) :
    polyline p rest y ≤ polyline p rest x := by
  have hmirrored : polyline (mirrored p) (rest.map mirrored) x ≤
      polyline (mirrored p) (rest.map mirrored) y :=
    polyline_mono (isAscending_mirrored h) hout.isRising_mirrored hxy
  rw [polyline_mirrored, polyline_mirrored] at hmirrored
  exact neg_le_neg_iff.mp hmirrored

/-- Strictly descending outputs. -/
abbrev IsStrictlyFalling (samples : List (Rat × Rat)) : Prop :=
  (samples.map Prod.snd).Pairwise (· > ·)

lemma IsStrictlyFalling.isFalling (h : IsStrictlyFalling samples) : IsFalling samples :=
  h.imp le_of_lt

lemma IsStrictlyFalling.isStrictlyRising_mirrored (h : IsStrictlyFalling samples) :
    IsStrictlyRising (samples.map mirrored) := by
  rw [IsStrictlyFalling, List.pairwise_map] at h
  rw [IsStrictlyRising, List.map_map, List.pairwise_map]
  exact h.imp neg_lt_neg

lemma polyline_strictAnti (h : IsAscending (p :: rest)) (hout : IsStrictlyFalling (p :: rest))
    (hxy : x < y) (hlast : ∃ r ∈ rest, y ≤ r.1) : polyline p rest y < polyline p rest x := by
  have hlast' : ∃ r ∈ rest.map mirrored, y ≤ r.1 := by
    obtain ⟨r, hr, hyr⟩ := hlast
    exact ⟨mirrored r, List.mem_map_of_mem hr, hyr⟩
  have hmirrored : polyline (mirrored p) (rest.map mirrored) x <
      polyline (mirrored p) (rest.map mirrored) y :=
    polyline_strictMono (isAscending_mirrored h) hout.isStrictlyRising_mirrored hxy hlast'
  rw [polyline_mirrored, polyline_mirrored] at hmirrored
  exact neg_lt_neg_iff.mp hmirrored

/--
Interpolation in a table of two or more samples with ascending inputs. It has a result in the range
of the table and is refused outside. In every sample it gives the output, and between two neighbours
it follows the line through them and so lies between their outputs. With outputs that never fall it
never falls, and with outputs that never rise it never rises.
-/
theorem interpolate_piecewise_linear {first last : Rat × Rat} (hlength : 2 ≤ samples.length)
    (hascending : IsAscending samples) (hfirst : samples.head? = some first)
    (hlast : samples.getLast? = some last) :
    (∀ x, (∃ y, interpolate x samples = .ok y) ↔ first.1 ≤ x ∧ x ≤ last.1) ∧
    (∀ x, ¬ (first.1 ≤ x ∧ x ≤ last.1) →
      interpolate x samples = .error (.outsideRange x first.1 last.1)) ∧
    (∀ p ∈ samples, interpolate p.1 samples = .ok p.2) ∧
    (∀ p q, (p, q) ∈ samples.zip samples.tail → ∀ x, p.1 ≤ x → x ≤ q.1 →
      interpolate x samples = .ok (line p q x) ∧ line p q x ∈ Set.uIcc p.2 q.2) ∧
    (IsRising samples → ∀ x y a b, x ≤ y → interpolate x samples = .ok a →
      interpolate y samples = .ok b → a ≤ b) ∧
    (IsFalling samples → ∀ x y a b, x ≤ y → interpolate x samples = .ok a →
      interpolate y samples = .ok b → b ≤ a) := by
  obtain ⟨p, q, rest, rfl⟩ : ∃ p q rest, samples = p :: q :: rest := by
    rcases samples with - | ⟨p, - | ⟨q, rest⟩⟩
    · exact absurd hlength (Nat.not_succ_le_zero 1)
    · exact absurd hlength (Nat.not_succ_le_self 1)
    · exact ⟨p, q, rest, rfl⟩
  obtain rfl : p = first := Option.some.inj hfirst
  have hmem : last ∈ q :: rest := List.mem_of_getLast? (List.getLast?_cons_cons ▸ hlast)
  have hinside {x : Rat} (hx : p.1 ≤ x ∧ x ≤ last.1) :
      interpolate x (p :: q :: rest) = .ok (polyline p (q :: rest) x) :=
    interpolate_eq_polyline hascending hx.1 ⟨last, hmem, hx.2⟩
  have houtside {x : Rat} (hx : ¬ (p.1 ≤ x ∧ x ≤ last.1)) :
      interpolate x (p :: q :: rest) = .error (.outsideRange x p.1 last.1) :=
    interpolate_of_outside hascending hlast hx
  have hok {x y : Rat} (h : interpolate x (p :: q :: rest) = .ok y) :
      (p.1 ≤ x ∧ x ≤ last.1) ∧ polyline p (q :: rest) x = y := by
    by_cases hx : p.1 ≤ x ∧ x ≤ last.1
    · exact ⟨hx, Except.ok.inj ((hinside hx).symm.trans h)⟩
    · rw [houtside hx] at h
      cases h
  refine ⟨fun x => ⟨?_, fun hx => ⟨_, hinside hx⟩⟩, fun x => houtside, fun r hr => ?_,
    fun a b hab x ha hb => ?_, fun hout x y a b hxy ha hb => ?_, fun hout x y a b hxy ha hb => ?_⟩
  · rintro ⟨y, hy⟩
    exact (hok hy).1
  · rw [hinside ⟨hascending.start_le hr, hascending.le_last hlast hr⟩,
      polyline_of_mem hascending hr]
  · obtain ⟨hmema, hmemb⟩ := List.of_mem_zip hab
    have hpa : p.1 ≤ a.1 := hascending.start_le hmema
    have hbl : b.1 ≤ last.1 := hascending.le_last hlast (List.mem_cons_of_mem p hmemb)
    rw [hinside ⟨hpa.trans ha, hb.trans hbl⟩, polyline_of_neighbours hascending hab ha hb]
    exact ⟨rfl, line_mem_uIcc (hascending.lt_of_neighbours hab) ha hb⟩
  · rw [← (hok ha).2, ← (hok hb).2]
    exact polyline_mono hascending hout hxy
  · rw [← (hok ha).2, ← (hok hb).2]
    exact polyline_anti hascending hout hxy

/-- The density of the air falls with the altitude, and is given at no negative one. -/
theorem interpolate_piecewise_linear_densityRatio :
    (interpolate (5000 : Rat) densityRatioTable = .ok (43 / 50) ∧
      interpolate (2500 : Rat) densityRatioTable = .ok (93 / 100)) ∧
    interpolate (-1 : Rat) densityRatioTable = .error (.outsideRange (-1) 0 20000) ∧
    ∀ x y a b : Rat, x ≤ y → interpolate x densityRatioTable = .ok a →
      interpolate y densityRatioTable = .ok b → b ≤ a := by
  have htable : IsAscending densityRatioTable ∧
      (densityRatioTable : List (Rat × Rat)).head? = some (0, 1) ∧
      (densityRatioTable : List (Rat × Rat)).getLast? = some (20000, 53 / 100) := by
    decide +kernel
  obtain ⟨hascending, hfirst, hlast⟩ := htable
  obtain ⟨-, houtside, hknots, hsegments, -, hfalling⟩ :=
    interpolate_piecewise_linear (by decide) hascending hfirst hlast
  refine ⟨⟨hknots (5000, 43 / 50) (by decide +kernel), ?_⟩, houtside (-1) (by decide +kernel),
    hfalling (by decide +kernel)⟩
  have hline : line (0, 1) (5000, 43 / 50) 2500 = 93 / 100 := by decide +kernel
  rw [← hline]
  exact (hsegments (0, 1) (5000, 43 / 50) (by decide +kernel) 2500 (by decide) (by decide)).1

end FlightUnits.Flight
