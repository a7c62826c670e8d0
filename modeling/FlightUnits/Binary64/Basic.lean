import FlightUnits.Rounding

/-!
# Double precision numbers

A finite number is a sign and a whole number of *units*, the unit being the least positive value
`2 ^ -1074`. A magnitude is representable when it is below `2 ^ 2098` units and a multiple of the
spacing of its binade, so each magnitude has one form and equal values are equal terms.
`Magnitude.ofQuotient?` rounds the exact quotient `n / d` to the nearest representable magnitude,
halves to even; it is the only place where precision is lost.
-/

namespace FlightUnits

namespace Binary64

/-- The number of units in the number one. -/
def unitsInOne : Nat := Nat.pow 2 1074

/-- The distance, in units, between neighbouring magnitudes in the binade of `u`. -/
def spacing (u : Nat) : Nat := Nat.pow 2 (u.log2 - 52)

/-- The first power of two that is too large to be represented. -/
def limit : Nat := Nat.pow 2 2098

theorem limit_pos : 0 < limit := by
  unfold limit
  apply Nat.pow_pos
  decide

theorem spacing_pos (u : Nat) : 0 < spacing u := Nat.two_pow_pos _

/-- The exact quotient `n / d`, rounded to a multiple of the spacing of its binade. -/
def roundQuotient (n d : Nat) : Nat :=
  nearestQuotient n (d * spacing (n / d)) * spacing (n / d)

/-- At most `2 ^ 53` steps of the spacing reach a rounded quotient. -/
theorem nearestQuotient_spacing_le (n d : Nat) :
    nearestQuotient n (d * spacing (n / d)) ≤ Nat.pow 2 53 := by
  refine Nat.le_trans (nearestQuotient_le _ _) ?_
  rw [← Nat.div_div_eq_div_mul, Nat.pow_eq]
  have below : n / d < 2 ^ ((n / d).log2 + 1) := Nat.lt_log2_self
  have wide : 2 ^ ((n / d).log2 + 1) ≤ 2 ^ 53 * spacing (n / d) := by
    rw [spacing, Nat.pow_eq, ← Nat.pow_add]
    exact Nat.pow_le_pow_right (by decide) (by omega)
  have : n / d / spacing (n / d) < 2 ^ 53 :=
    (Nat.div_lt_iff_lt_mul (spacing_pos _)).mpr (Nat.lt_of_lt_of_le below wide)
  omega

/-- Up to `2 ^ 53` steps of a power of two are a multiple of the spacing of their own binade. -/
theorem spacing_dvd_mul_two_pow {s : Nat} (hs : s ≤ Nat.pow 2 53) (e : Nat) :
    spacing (s * Nat.pow 2 e) ∣ s * Nat.pow 2 e := by
  simp only [Nat.pow_eq] at hs ⊢
  by_cases top : s = 2 ^ 53
  · subst top
    rw [spacing, Nat.pow_eq, ← Nat.pow_add, Nat.log2_two_pow]
    exact Nat.pow_dvd_pow 2 (by omega)
  · by_cases zero : s = 0
    · subst zero
      simp
    · refine Nat.dvd_trans (Nat.pow_dvd_pow 2 ?_) (Nat.dvd_mul_left (2 ^ e) s)
      have nonzero : s * 2 ^ e ≠ 0 := Nat.mul_ne_zero zero (Nat.ne_of_gt (Nat.two_pow_pos e))
      have : s * 2 ^ e < 2 ^ (53 + e) := by
        rw [Nat.pow_add]
        exact Nat.mul_lt_mul_of_pos_right (by omega) (Nat.two_pow_pos e)
      have := (Nat.log2_lt nonzero).mpr this
      omega

theorem spacing_dvd_roundQuotient (n d : Nat) :
    spacing (roundQuotient n d) ∣ roundQuotient n d :=
  spacing_dvd_mul_two_pow (nearestQuotient_spacing_le n d) _

/-- A representable magnitude, counted in units of the least positive value. -/
structure Magnitude where
  units : Nat
  units_lt : units < limit
  aligned : spacing units ∣ units
deriving DecidableEq

namespace Magnitude

@[ext] theorem ext {a b : Magnitude} (h : a.units = b.units) : a = b := by
  cases a
  cases b
  simp_all

/-- The magnitude zero. -/
def zero : Magnitude := ⟨0, limit_pos, Nat.dvd_zero _⟩

/-- The representable magnitude nearest to `n / d` units, unless that is too large. -/
def ofQuotient? (n d : Nat) : Option Magnitude :=
  if h : roundQuotient n d < limit then
    some ⟨roundQuotient n d, h, spacing_dvd_roundQuotient n d⟩
  else none

/-- The exact value of a magnitude. -/
def value (m : Magnitude) : Rat := mkRat m.units unitsInOne

/-- The units of a magnitude with a sign. -/
def signed (negative : Bool) (m : Magnitude) : Int :=
  if negative then -(m.units : Int) else m.units

end Magnitude

end Binary64

/--
A double precision number: finite, infinite, or not a number. A NaN carries a mark that tells
where it arose; arithmetic gives the mark `0`, which stands for no known origin.
-/
inductive Binary64 where
  | finite (negative : Bool) (magnitude : Binary64.Magnitude)
  | infinite (negative : Bool)
  | nan (mark : Nat)
deriving DecidableEq

namespace Binary64

/-- Zero with a sign. -/
def zero (negative : Bool) : Binary64 := .finite negative .zero

instance : Inhabited Binary64 := ⟨zero false⟩

/-- The number nearest to `n / d` units, infinite when the quotient is too large. -/
def ofQuotient (negative : Bool) (n d : Nat) : Binary64 :=
  match Magnitude.ofQuotient? n d with
  | some m => .finite negative m
  | none => .infinite negative

/-- The number nearest to a whole number. -/
def ofInt (n : Int) : Binary64 := ofQuotient (decide (n < 0)) (n.natAbs * unitsInOne) 1

/-- The number nearest to `n * 10 ^ e`. -/
def ofDecimal (negative : Bool) (n : Nat) (e : Int) : Binary64 :=
  ofQuotient negative (n * Nat.pow 10 e.toNat * unitsInOne) (Nat.pow 10 (-e).toNat)

/-- A NaN of any mark. -/
def isNaN : Binary64 → Bool
  | .nan _ => true
  | _ => false

/-- A number that is neither infinite nor a NaN. -/
def isFinite : Binary64 → Bool
  | .finite _ _ => true
  | _ => false

/-- A number equal to zero, of either sign. -/
def isZero : Binary64 → Bool
  | .finite _ m => m.units == 0
  | _ => false

/-- The exact value of a finite number. -/
def value? : Binary64 → Option Rat
  | .finite negative m => some (if negative then -m.value else m.value)
  | _ => none

/-- Two numbers that are one and the same: equal, or NaNs of one known origin. -/
def isSame : Binary64 → Binary64 → Bool
  | .nan m, .nan n => m == n && m != 0
  | .finite s a, .finite t b => a.signed s == b.signed t
  | .infinite s, .infinite t => s == t
  | _, _ => false

end Binary64

end FlightUnits
