import FlightUnits.Fault
import Mathlib.Tactic.Basic

/-!
# Fallible steps

The operations of the library are chains of steps each of which may fail. The lemmas here take
such a chain apart: what it comes to when a step succeeds or fails, and what is known of its steps
when the whole succeeds or fails. Failures of arithmetic enter a chain by `liftM`. What all
outcomes of a chain have in common is carried from step to step by `Ends`.
-/

namespace FlightUnits

section Chains

variable {ε β γ : Type}

@[simp] lemma ok_bind (x : β) (f : β → Except ε γ) : (Except.ok x >>= f) = f x := rfl

@[simp] lemma error_bind (e : ε) (f : β → Except ε γ) :
    ((Except.error e : Except ε β) >>= f) = .error e := rfl

@[simp] lemma pure_eq_ok (x : β) : (pure x : Except ε β) = .ok x := rfl

@[simp] lemma throw_eq_error (e : ε) : (throw e : Except ε β) = .error e := rfl

lemma bind_eq_ok_iff {s : Except ε β} {f : β → Except ε γ} {y : γ} :
    (s >>= f) = .ok y ↔ ∃ x, s = .ok x ∧ f x = .ok y := by
  cases s <;> simp

lemma bind_eq_error_iff {s : Except ε β} {f : β → Except ε γ} {e : ε} :
    (s >>= f) = .error e ↔ s = .error e ∨ ∃ x, s = .ok x ∧ f x = .error e := by
  cases s <;> simp

lemma map_eq_ok_iff {f : β → γ} {s : Except ε β} {y : γ} :
    s.map f = .ok y ↔ ∃ x, s = .ok x ∧ f x = y := by
  cases s with
  | ok x =>
    constructor
    · intro h
      exact ⟨x, rfl, Except.ok.inj h⟩
    · rintro ⟨z, hz, rfl⟩
      obtain rfl := Except.ok.inj hz
      rfl
  | error e => exact iff_of_false nofun nofun

lemma map_eq_error_iff {f : β → γ} {s : Except ε β} {e : ε} :
    s.map f = .error e ↔ s = .error e := by
  cases s <;> simp [Except.map]

lemma mapError_eq_ok_iff {δ : Type} {f : ε → δ} {s : Except ε β} {x : β} :
    s.mapError f = .ok x ↔ s = .ok x := by
  cases s with
  | ok y =>
    constructor <;>
    · intro h
      exact Except.ok.inj h ▸ rfl
  | error e =>
    constructor <;>
    · intro h
      exact nomatch h

lemma mapError_eq_error_iff {δ : Type} {f : ε → δ} {s : Except ε β} {d : δ} :
    s.mapError f = .error d ↔ ∃ e, s = .error e ∧ f e = d := by
  cases s with
  | ok y =>
    constructor
    · intro h
      exact nomatch h
    · rintro ⟨e, he, -⟩
      exact nomatch he
  | error e =>
    constructor
    · intro h
      exact ⟨e, rfl, Except.error.inj h⟩
    · rintro ⟨g, hg, rfl⟩
      obtain rfl := Except.error.inj hg
      rfl

lemma eq_ok_of_toOption {s : Except ε β} {x : β} (h : s.toOption = some x) : s = .ok x := by
  cases s with
  | ok y => exact congrArg Except.ok (Option.some.inj h)
  | error e => cases h

lemma exists_of_isSome_toOption {s : Except ε β} (h : s.toOption.isSome) : ∃ x, s = .ok x := by
  obtain ⟨x, hx⟩ := Option.isSome_iff_exists.mp h
  exact ⟨x, eq_ok_of_toOption hx⟩

end Chains

section Outcomes

variable {ε β γ : Type} {Q : β → Prop} {R : γ → Prop} {p : ε → Prop} {s : Except ε β}

/-- A step comes to a result with the property `Q` or fails with the property `p`. -/
inductive Ends (Q : β → Prop) (p : ε → Prop) : Except ε β → Prop where
  | ok {x : β} (h : Q x) : Ends Q p (.ok x)
  | error {e : ε} (h : p e) : Ends Q p (.error e)

lemma Ends.bind {f : β → Except ε γ} (hs : Ends Q p s) (hf : ∀ x, Q x → Ends R p (f x)) :
    Ends R p (s >>= f) := by
  cases hs with
  | ok hx => exact hf _ hx
  | error he => exact .error he

lemma Ends.mono {Q' : β → Prop} {p' : ε → Prop} (hs : Ends Q p s) (hQ : ∀ x, Q x → Q' x)
    (hp : ∀ e, p e → p' e) : Ends Q' p' s := by
  cases hs with
  | ok hx => exact .ok (hQ _ hx)
  | error he => exact .error (hp _ he)

lemma Ends.map {f : β → γ} (hs : Ends Q p s) (hf : ∀ x, Q x → R (f x)) : Ends R p (s.map f) := by
  cases hs with
  | ok hx => exact .ok (hf _ hx)
  | error he => exact .error he

lemma Ends.mapError {δ : Type} {p' : δ → Prop} {f : ε → δ} (hs : Ends Q p s)
    (hf : ∀ e, p e → p' (f e)) : Ends Q p' (s.mapError f) := by
  cases hs with
  | ok hx => exact .ok hx
  | error he => exact .error (hf _ he)

lemma Ends.of_eq_ok {x : β} (hs : Ends Q p s) (h : s = .ok x) : Q x := by
  rw [h] at hs
  cases hs with
  | ok hx => exact hx

lemma Ends.of_eq_error {e : ε} (hs : Ends Q p s) (h : s = .error e) : p e := by
  rw [h] at hs
  cases hs with
  | error he => exact he

/-- Steps that all succeed do so one after the other. -/
lemma exists_mapM_eq_ok {f : β → Except ε γ} {xs : List β} (h : ∀ x ∈ xs, ∃ y, f x = .ok y) :
    ∃ ys, xs.mapM f = .ok ys := by
  induction xs with
  | nil => exact ⟨[], rfl⟩
  | cons x xs ih =>
    obtain ⟨y, hy⟩ := h x List.mem_cons_self
    obtain ⟨ys, hys⟩ := ih fun z hz => h z (List.mem_cons_of_mem x hz)
    refine ⟨y :: ys, ?_⟩
    rw [List.mapM_cons, hy, ok_bind, hys, ok_bind, pure_eq_ok]

/-- Steps with known results come to the list of them. -/
lemma mapM_eq_ok_map {f : β → Except ε γ} {g : β → γ} {xs : List β}
    (h : ∀ x ∈ xs, f x = .ok (g x)) : xs.mapM f = .ok (xs.map g) := by
  induction xs with
  | nil => rfl
  | cons x xs ih =>
    rw [List.forall_mem_cons] at h
    rw [List.mapM_cons, h.1, ok_bind, ih h.2, ok_bind, pure_eq_ok, List.map_cons]

/-- Of steps that do not all succeed one is to blame. -/
lemma exists_of_mapM_eq_error {f : β → Except ε γ} {xs : List β} {e : ε}
    (h : xs.mapM f = .error e) : ∃ x ∈ xs, f x = .error e := by
  induction xs with
  | nil => cases h
  | cons x xs ih =>
    rw [List.mapM_cons] at h
    rcases bind_eq_error_iff.mp h with hx | ⟨y, -, h⟩
    · exact ⟨x, List.mem_cons_self, hx⟩
    rcases bind_eq_error_iff.mp h with hxs | ⟨ys, -, h⟩
    · obtain ⟨z, hz, hfz⟩ := ih hxs
      exact ⟨z, List.mem_cons_of_mem x hz, hfz⟩
    · cases h

/-- Of steps that come to a result each has succeeded. -/
lemma exists_of_mapM_eq_ok {f : β → Except ε γ} {xs : List β} {ys : List γ}
    (h : xs.mapM f = .ok ys) : ∀ x ∈ xs, ∃ y, f x = .ok y := by
  induction xs generalizing ys with
  | nil => exact nofun
  | cons x xs ih =>
    rw [List.mapM_cons] at h
    obtain ⟨y, hy, h⟩ := bind_eq_ok_iff.mp h
    obtain ⟨zs, hzs, -⟩ := bind_eq_ok_iff.mp h
    exact List.forall_mem_cons.mpr ⟨⟨y, hy⟩, ih hzs⟩

end Outcomes

section Arithmetic

variable {α β : Type}

@[simp] lemma liftM_ok (x : β) :
    (liftM (Except.ok x : Except ArithmeticFault β) : Except (Fault α) β) = .ok x := rfl

@[simp] lemma liftM_error (g : ArithmeticFault) :
    (liftM (Except.error g : Except ArithmeticFault β) : Except (Fault α) β) =
      .error (.arithmetic g) := rfl

lemma liftM_eq_error_iff {s : Except ArithmeticFault β} {f : Fault α} :
    (liftM s : Except (Fault α) β) = .error f ↔ ∃ g, s = .error g ∧ f = .arithmetic g := by
  cases s with
  | ok x => simp
  | error g => simp [eq_comm]

lemma Ends.liftM {Q : β → Prop} {p : ArithmeticFault → Prop} {p' : Fault α → Prop}
    {s : Except ArithmeticFault β} (hs : Ends Q p s) (hp : ∀ g, p g → p' (.arithmetic g)) :
    Ends Q p' (liftM s : Except (Fault α) β) := by
  cases hs with
  | ok hx => exact .ok hx
  | error hg => exact .error (hp _ hg)

end Arithmetic

end FlightUnits
