/-!
# Rounding a quotient to a whole number

`nearestQuotient n d` is the natural number nearest to `n / d`, and a value halfway between two
numbers goes to the even one. Every rounding of the library, to binary or to decimal places, is
this one on a suitable grid. The lemmas say that the result is one of the two neighbours of the
quotient and that a whole quotient is kept.
-/

namespace FlightUnits

/-- The natural number nearest to `n / d`; a half goes to the even neighbour. -/
def nearestQuotient (n d : Nat) : Nat :=
  let whole := n / d
  let twice := 2 * (n % d)
  if twice < d then whole
  else if d < twice then whole + 1
  else whole + whole % 2

theorem div_le_nearestQuotient (n d : Nat) : n / d ≤ nearestQuotient n d := by
  unfold nearestQuotient
  dsimp only
  split
  · exact Nat.le_refl _
  · split <;> omega

theorem nearestQuotient_le (n d : Nat) : nearestQuotient n d ≤ n / d + 1 := by
  unfold nearestQuotient
  dsimp only
  split
  · omega
  · split
    · exact Nat.le_refl _
    · have := Nat.mod_lt (n / d) (show 0 < 2 by decide)
      omega

/-- A whole quotient is its own nearest number. -/
theorem nearestQuotient_mul (k : Nat) {d : Nat} (hd : 0 < d) : nearestQuotient (k * d) d = k := by
  unfold nearestQuotient
  simp [Nat.mul_div_cancel k hd, hd]

end FlightUnits
