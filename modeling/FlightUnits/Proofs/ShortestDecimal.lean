import FlightUnits.Proofs.DecimalRounding
import FlightUnits.Proofs.Magnitudes

/-!
# Shortest decimals

A decimal that is close to a magnitude, compared with the spacing of its binade, is read as the
magnitude. Seventeen digits are always close enough, so that the shortest decimal is read back.
-/

namespace FlightUnits

section Quotients

variable {n d k : Nat}

/-- A quotient that is less than one half from a number is rounded to it. -/
lemma nearestQuotient_eq_of_lt (hlow : 2 * (k * d) < 2 * n + d) (hhigh : 2 * n < 2 * (k * d) + d) :
    nearestQuotient n d = k := by
  have hd : 0 < d := by omega
  obtain ⟨hbelow, habove⟩ := nearestQuotient_error n hd
  have hle : nearestQuotient n d < k + 1 := by
    refine Nat.lt_of_mul_lt_mul_right (a := d) ?_
    rw [Nat.add_mul]
    omega
  have hge : k < nearestQuotient n d + 1 := by
    refine Nat.lt_of_mul_lt_mul_right (a := d) ?_
    rw [Nat.add_mul]
    omega
  omega

lemma nearestQuotient_mul_left {c : Nat} (hc : 0 < c) (n d : Nat) :
    nearestQuotient (c * n) (c * d) = nearestQuotient n d := by
  have hscale {a b : Nat} : 2 * (c * a) < c * b ↔ 2 * a < b := by
    rw [Nat.mul_left_comm, Nat.mul_lt_mul_left hc]
  have hscale' {a b : Nat} : c * b < 2 * (c * a) ↔ b < 2 * a := by
    rw [Nat.mul_left_comm, Nat.mul_lt_mul_left hc]
  unfold nearestQuotient
  simp only [Nat.mul_div_mul_left n d hc, Nat.mul_mod_mul_left, hscale, hscale']

namespace Binary64

lemma roundQuotient_mul_left {c : Nat} (hc : 0 < c) (n d : Nat) :
    roundQuotient (c * n) (c * d) = roundQuotient n d := by
  rw [roundQuotient, roundQuotient, Nat.mul_div_mul_left n d hc, Nat.mul_assoc,
    nearestQuotient_mul_left hc]

/-- Equal quotients are rounded to the same magnitude. -/
lemma roundQuotient_congr {n' d' : Nat} (hd : 0 < d) (hd' : 0 < d') (h : n * d' = n' * d) :
    roundQuotient n d = roundQuotient n' d' := by
  rw [← roundQuotient_mul_left hd', ← roundQuotient_mul_left hd n', Nat.mul_comm d' n, h,
    Nat.mul_comm n' d, Nat.mul_comm d' d]

lemma lt_two_pow_mul_spacing (u : Nat) : u < 2 ^ 53 * spacing u := by
  have hlog : u < 2 ^ (u.log2 + 1) := Nat.lt_log2_self
  have hpow : 2 ^ (u.log2 + 1) ≤ 2 ^ 53 * 2 ^ (u.log2 - 52) := by
    rw [← pow_add]
    exact Nat.pow_le_pow_right two_pos (by omega)
  exact hlog.trans_le hpow

lemma roundQuotient_eq_of_dvd {u : Nat} (hdvd : spacing (n / d) ∣ u)
    (hlow : 2 * (u * d) < 2 * n + d * spacing (n / d))
    (hhigh : 2 * n < 2 * (u * d) + d * spacing (n / d)) : roundQuotient n d = u := by
  obtain ⟨c, rfl⟩ := hdvd
  have hsteps : spacing (n / d) * c * d = c * (d * spacing (n / d)) := by ring
  rw [hsteps] at hlow hhigh
  rw [roundQuotient, nearestQuotient_eq_of_lt hlow hhigh, Nat.mul_comm]

/-- A quotient in the same binade as `u` or below is on a grid that has `u`. So is one above, if it
is less than a step away: the least number of the next binade is too far away. -/
lemma spacing_dvd_of_lt {u : Nat} (hd : 0 < d) (hu : spacing u ∣ u) (h : n < (u + spacing u) * d) :
    spacing (n / d) ∣ u := by
  rcases le_or_gt (n / d).log2 u.log2 with hle | hgt
  · refine dvd_trans ?_ hu
    exact Nat.pow_dvd_pow 2 (Nat.sub_le_sub_right hle 52)
  · exfalso
    have hpower : spacing u ∣ 2 ^ (u.log2 + 1) := Nat.pow_dvd_pow 2 (by omega)
    have habove : u < 2 ^ (u.log2 + 1) := Nat.lt_log2_self
    have hstep : u + spacing u ≤ 2 ^ (u.log2 + 1) := by
      have hdiff := Nat.le_of_dvd (Nat.sub_pos_of_lt habove) (Nat.dvd_sub hpower hu)
      omega
    have hne : n / d ≠ 0 := by
      intro hzero
      rw [hzero] at hgt
      exact Nat.not_lt_zero _ hgt
    have hquotient : 2 ^ (u.log2 + 1) ≤ n / d :=
      (Nat.pow_le_pow_right two_pos hgt).trans (Nat.log2_self_le hne)
    have hn : (u + spacing u) * d ≤ n :=
      (Nat.le_div_iff_mul_le hd).mp (hstep.trans hquotient)
    exact absurd h hn.not_gt

/-- A quotient that is close to `u` is less than a step away. -/
lemma spacing_dvd_of_near {u : Nat} (hd : 0 < d) (hu : spacing u ∣ u)
    (hnear : 2 * 10 ^ 16 * n ≤ (2 * 10 ^ 16 + 1) * (u * d)) : spacing (n / d) ∣ u := by
  refine spacing_dvd_of_lt hd hu ?_
  have hspacing : u * d < 2 ^ 53 * (spacing u * d) := by
    rw [← Nat.mul_assoc]
    exact Nat.mul_lt_mul_of_pos_right (lt_two_pow_mul_spacing u) hd
  rw [Nat.add_mul]
  omega

/-- A quotient that agrees with a magnitude in the first sixteen digits and half the next one. -/
lemma roundQuotient_eq_of_near {u : Nat} (hd : 0 < d) (hu : spacing u ∣ u)
    (hhigh : 2 * 10 ^ 16 * n ≤ (2 * 10 ^ 16 + 1) * (u * d))
    (hlow : (2 * 10 ^ 16 - 1) * (u * d) ≤ 2 * 10 ^ 16 * n) : roundQuotient n d = u := by
  have hsteps : n < 2 ^ 53 * (d * spacing (n / d)) := by
    calc
      n < (n / d + 1) * d := (Nat.div_lt_iff_lt_mul hd).mp (Nat.lt_succ_self _)
      _ ≤ 2 ^ 53 * spacing (n / d) * d := Nat.mul_le_mul_right _ (lt_two_pow_mul_spacing _)
      _ = 2 ^ 53 * (d * spacing (n / d)) := by ring
  refine roundQuotient_eq_of_dvd (spacing_dvd_of_near hd hu hhigh) ?_ ?_ <;> omega

end Binary64

end Quotients

namespace Binary64

lemma ten_pow_pos (k : Nat) : 0 < Nat.pow 10 k := Nat.pow_pos (by decide)

lemma ten_pow_log10_le {n : Nat} (hn : n ≠ 0) : 10 ^ log10 n ≤ n := by
  have hestimate : 10 ^ (n.log2 * 1233 / 4096) ≤ 2 ^ n.log2 := by
    have hbase : 10 ^ 1233 ≤ 2 ^ 4096 := by decide +kernel
    refine (Nat.pow_le_pow_iff_left (n := 4096) (by decide)).mp ?_
    calc
      (10 ^ (n.log2 * 1233 / 4096)) ^ 4096 = 10 ^ (n.log2 * 1233 / 4096 * 4096) := by
        rw [← pow_mul]
      _ ≤ 10 ^ (1233 * n.log2) := by
        refine Nat.pow_le_pow_right (by decide) ?_
        rw [Nat.mul_comm 1233]
        exact Nat.div_mul_le_self _ _
      _ ≤ (2 ^ 4096) ^ n.log2 := by
        rw [pow_mul]
        exact Nat.pow_le_pow_left hbase _
      _ = (2 ^ n.log2) ^ 4096 := by rw [← pow_mul, ← pow_mul, Nat.mul_comm]
  rw [log10]
  split
  · next h => exact h
  · exact hestimate.trans (Nat.log2_self_le hn)

lemma le_log10 {n k : Nat} (h : 2 ^ k ≤ n) : k * 1233 / 4096 ≤ log10 n := by
  have hlog : k ≤ n.log2 := (Nat.le_log2 ((Nat.two_pow_pos k).trans_le h).ne').mpr h
  have hestimate : k * 1233 / 4096 ≤ n.log2 * 1233 / 4096 :=
    Nat.div_le_div_right (Nat.mul_le_mul_right _ hlog)
  rw [log10]
  split
  · exact hestimate.trans (Nat.le_succ _)
  · exact hestimate

lemma readNeighbour?_eq_some {n d : Nat} {e : Int} {isRead : Decimal → Bool} {decimal : Decimal}
    (h : readNeighbour? n d e isRead = some decimal) : isRead decimal ∧ decimal.exponent = e := by
  rw [readNeighbour?] at h
  split at h
  · next hbelow habove =>
    obtain rfl := Option.some.inj h
    refine ⟨?_, rfl⟩
    have hge := div_le_nearestQuotient n d
    have hle := nearestQuotient_le n d
    obtain hnearest | hnearest : nearestQuotient n d = n / d ∨ nearestQuotient n d = n / d + 1 := by
      omega
    · rw [hnearest]
      exact hbelow
    · rw [hnearest]
      exact habove
  · next hbelow _ =>
    obtain rfl := Option.some.inj h
    exact ⟨hbelow, rfl⟩
  · next _ habove =>
    obtain rfl := Option.some.inj h
    exact ⟨habove, rfl⟩
  · cases h

namespace Magnitude

variable {m : Magnitude}

/-- Magnitudes in units of the 400th decimal place are large enough to have a leading digit. -/
lemma two_pow_le_shifted (h : m.units ≠ 0) :
    2 ^ 254 ≤ m.units * Nat.pow 10 400 / unitsInOne := by
  have hscale : 2 ^ 254 * unitsInOne ≤ Nat.pow 10 400 := by decide +kernel
  rw [Nat.le_div_iff_mul_le unitsInOne_pos]
  exact hscale.trans (Nat.le_mul_of_pos_left _ (Nat.pos_of_ne_zero h))

lemma neg_le_decimalExponent (h : m.units ≠ 0) : -384 ≤ m.decimalExponent := by
  have hlog := le_log10 (two_pow_le_shifted h)
  rw [decimalExponent]
  omega

/-- A bound on a quotient that was shifted by `p` places. -/
lemma mul_ten_pow_le_of_shifted {u v l p k : Nat} {e : Int} (h : 10 ^ l * v ≤ u * Nat.pow 10 p)
    (he : e + k + p = l) : 10 ^ k * (v * 10 ^ e.toNat) ≤ u * 10 ^ (-e).toNat := by
  have hexponents : k + e.toNat + p = l + (-e).toNat := by omega
  refine Nat.le_of_mul_le_mul_right ?_ (ten_pow_pos p)
  calc
    10 ^ k * (v * 10 ^ e.toNat) * 10 ^ p = 10 ^ (k + e.toNat + p) * v := by ring
    _ = 10 ^ l * v * 10 ^ (-e).toNat := by
      rw [hexponents]
      ring
    _ ≤ u * 10 ^ p * 10 ^ (-e).toNat := Nat.mul_le_mul_right _ h
    _ = u * 10 ^ (-e).toNat * 10 ^ p := by ring

/-- The value has seventeen digits before the last place of the seventeenth. -/
lemma ten_pow_decimalExponent_le (h : m.units ≠ 0) :
    10 ^ 16 * (m.overPowerOfTen (m.decimalExponent - 16)).2 ≤
      (m.overPowerOfTen (m.decimalExponent - 16)).1 := by
  have hne : m.units * Nat.pow 10 400 / unitsInOne ≠ 0 :=
    ((Nat.two_pow_pos _).trans_le (two_pow_le_shifted h)).ne'
  have hlog := (Nat.le_div_iff_mul_le unitsInOne_pos).mp (ten_pow_log10_le hne)
  refine mul_ten_pow_le_of_shifted hlog ?_
  rw [decimalExponent]
  omega

lemma ofQuotient?_eq_some_of_eq {n d : Nat} (h : roundQuotient n d = m.units) :
    ofQuotient? n d = some m := by
  rw [ofQuotient?, dif_pos (h ▸ m.units_lt)]
  exact congrArg some (Magnitude.ext h)

/-- The nearest decimal with seventeen digits is read as the magnitude. -/
lemma isReadFrom_seventeenDigits (h : m.units ≠ 0) {n d : Nat}
    (hnd : m.overPowerOfTen (m.decimalExponent - 16) = (n, d)) :
    m.isReadFrom ⟨nearestQuotient n d, m.decimalExponent - 16⟩ := by
  have hdigits := ten_pow_decimalExponent_le h
  rw [hnd] at hdigits
  dsimp only at hdigits
  generalize m.decimalExponent - 16 = e at hnd
  obtain ⟨rfl, rfl⟩ := Prod.mk.inj hnd
  have hpos : 0 < unitsInOne * Nat.pow 10 e.toNat := Nat.mul_pos unitsInOne_pos (ten_pow_pos _)
  obtain ⟨hlow, hhigh⟩ := nearestQuotient_error (m.units * Nat.pow 10 (-e).toNat) hpos
  generalize nearestQuotient _ _ = k at hlow hhigh
  have hunits : k * Nat.pow 10 e.toNat * unitsInOne = k * (unitsInOne * Nat.pow 10 e.toNat) := by
    ring
  rw [isReadFrom, beq_iff_eq]
  dsimp only
  refine ofQuotient?_eq_some_of_eq
    (roundQuotient_eq_of_near (ten_pow_pos _) m.aligned ?_ ?_) <;> rw [hunits] <;> omega

lemma isReadFrom_of_neighbour? {e : Int} {decimal : Decimal} (h : m.neighbour? e = some decimal) :
    m.isReadFrom decimal ∧ decimal.exponent = e := by
  rw [neighbour?] at h
  exact readNeighbour?_eq_some h

lemma isReadFrom_search (h : m.units ≠ 0) {count : Nat} {e : Int}
    (he : e = m.decimalExponent - 16 + count) :
    m.isReadFrom (m.search count e) ∧ m.decimalExponent - 16 ≤ (m.search count e).exponent := by
  induction count generalizing e with
  | zero =>
    obtain rfl : e = m.decimalExponent - 16 := by omega
    exact ⟨isReadFrom_seventeenDigits h rfl, le_rfl⟩
  | succ count ih =>
    rw [search]
    rcases hneighbour : m.neighbour? e with - | decimal
    · exact ih (by omega)
    · obtain ⟨hread, hexponent⟩ := isReadFrom_of_neighbour? hneighbour
      refine ⟨hread, ?_⟩
      rw [Option.getD_some, hexponent]
      omega

/-- The shortest decimal is read as the magnitude, and its last place is not too far behind. -/
theorem isReadFrom_shortest (m : Magnitude) :
    m.isReadFrom m.shortest ∧ -400 ≤ m.shortest.exponent := by
  rw [shortest]
  split
  · next h =>
    obtain rfl : m = zero := Magnitude.ext h
    decide +kernel
  · next h =>
    have hcount : m.decimalExponent = m.decimalExponent - 16 + (16 : Nat) := by omega
    obtain ⟨hread, hexponent⟩ := isReadFrom_search h hcount
    have hleast := neg_le_decimalExponent h
    exact ⟨hread, by omega⟩

end Magnitude

end Binary64

end FlightUnits
