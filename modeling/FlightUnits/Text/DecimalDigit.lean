/-!
# Decimal digits of every script

The decimal digits of Unicode come in runs of ten consecutive characters, zero first. A character
is a decimal digit when it lies in one of the runs, and its value is its place there.
-/

namespace FlightUnits.Text

/-- The zeros of the runs of decimal digits after the ASCII one, in ascending order. -/
def laterZeros : List Nat := [
  0x0660, 0x06f0, 0x07c0, 0x0966, 0x09e6, 0x0a66, 0x0ae6,
  0x0b66, 0x0be6, 0x0c66, 0x0ce6, 0x0d66, 0x0de6, 0x0e50, 0x0ed0,
  0x0f20, 0x1040, 0x1090, 0x17e0, 0x1810, 0x1946, 0x19d0, 0x1a80,
  0x1a90, 0x1b50, 0x1bb0, 0x1c40, 0x1c50, 0xa620, 0xa8d0, 0xa900,
  0xa9d0, 0xa9f0, 0xaa50, 0xabf0, 0xff10, 0x104a0, 0x10d30, 0x11066,
  0x110f0, 0x11136, 0x111d0, 0x112f0, 0x11450, 0x114d0, 0x11650, 0x116c0,
  0x11730, 0x118e0, 0x11950, 0x11c50, 0x11d50, 0x11da0, 0x16a60, 0x16ac0,
  0x16b50, 0x1d7ce, 0x1d7d8, 0x1d7e2, 0x1d7ec, 0x1d7f6, 0x1e140, 0x1e2f0,
  0x1e950, 0x1fbf0]

/-- The zeros of all runs of decimal digits. -/
def digitZeros : List Nat := 0x30 :: laterZeros

/-- The value of a decimal digit of any script. -/
def digitValue? (c : Char) : Option Nat :=
  (digitZeros.find? fun first => first ≤ c.toNat && c.toNat < first + 10).map (c.toNat - ·)

/-- The value of a digit from `0` to `9`. -/
def asciiDigitValue? (c : Char) : Option Nat :=
  if '0' ≤ c ∧ c ≤ '9' then some (c.toNat - 48) else none

/-- Whether a character is a decimal digit of any script. -/
def isDecimalDigit (c : Char) : Bool := (digitValue? c).isSome

theorem digitValue?_lt {c : Char} {n : Nat} (h : digitValue? c = some n) : n < 10 := by
  obtain ⟨start, found, rfl⟩ := Option.map_eq_some_iff.mp h
  have := List.find?_some found
  simp only [Bool.and_eq_true, decide_eq_true_eq] at this
  omega

/-- The ten ASCII digits are the first run. -/
theorem digitValue?_of_ascii {c : Char} {n : Nat} (h : asciiDigitValue? c = some n) :
    digitValue? c = some n := by
  unfold asciiDigitValue? at h
  split at h
  · rename_i range
    have lower : 48 ≤ c.toNat := range.1
    have upper : c.toNat ≤ 57 := range.2
    simpa [digitValue?, digitZeros, lower, Nat.lt_succ_of_le upper] using h
  · cases h

end FlightUnits.Text
