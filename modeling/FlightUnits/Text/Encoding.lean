import FlightUnits.Text.Surrogate

/-!
# Encodings of texts

A text arrives as bytes and does not say how they stand for characters. Two ASCII characters at its
start decide: the places of the zero bytes among the first four tell the size of a unit and the
order of its bytes. Surrogates that are not halves of a pair are kept. `decode?` gives the
characters of a text that arrived as UTF-8, which may turn out to stand for another text.
-/

namespace FlightUnits.Text

/-- How bytes stand for characters. -/
inductive Encoding where
  | utf8
  | utf16 (bigEndian : Bool)
  | utf32 (bigEndian : Bool)
deriving DecidableEq

namespace Encoding

/-- The encoding that the first bytes of a text show. -/
def detect : List UInt8 → Encoding
  | a :: b :: c :: d :: _ =>
    if a = 0 then (if b = 0 then utf32 true else utf16 true)
    else if b = 0 then (if c = 0 ∧ d = 0 then utf32 false else utf16 false)
    else utf8
  | [a, b] => if a = 0 then utf16 true else if b = 0 then utf16 false else utf8
  | _ => utf8

/-- The number whose digits to the base 256 are given, the greatest first. -/
def ofBytes (bytes : List UInt8) : Nat := bytes.foldl (fun n b => 256 * n + b.toNat) 0

/-- The number of a unit, given the order of its bytes. -/
def unit (bigEndian : Bool) (bytes : List UInt8) : Nat :=
  ofBytes (if bigEndian then bytes else bytes.reverse)

/-- The units of two bytes; nothing when a byte is left over. -/
def units16? (bigEndian : Bool) : List UInt8 → Option (List Nat)
  | [] => some []
  | a :: b :: rest => (units16? bigEndian rest).map (unit bigEndian [a, b] :: ·)
  | [_] => none

/-- The units of four bytes; nothing when bytes are left over. -/
def units32? (bigEndian : Bool) : List UInt8 → Option (List Nat)
  | [] => some []
  | a :: b :: c :: d :: rest => (units32? bigEndian rest).map (unit bigEndian [a, b, c, d] :: ·)
  | _ => none

end Encoding

/-- The first number that is no code. -/
def codeLimit : Nat := 0x110000

/-- The text without a byte order mark at its start. -/
def dropMark : List Char → List Char
  | c :: rest => if c.toNat = 0xfeff then rest else c :: rest
  | [] => []

/-- The characters of a text that arrived as UTF-8; nothing when its bytes have no reading. -/
def decode? (s : String) : Option (List Char) :=
  let bytes := s.toUTF8.toList
  match Encoding.detect bytes with
  | .utf8 => some (dropMark s.toList)
  | .utf16 bigEndian => (Encoding.units16? bigEndian bytes).map ofCodes
  | .utf32 bigEndian =>
    match Encoding.units32? bigEndian bytes with
    | some codes => if codes.all (· < codeLimit) then some (codes.map charOfCode) else none
    | none => none

theorem length_units16? {bigEndian : Bool} {bytes : List UInt8} {units : List Nat}
    (h : Encoding.units16? bigEndian bytes = some units) : bytes.length = 2 * units.length := by
  fun_induction Encoding.units16? bigEndian bytes generalizing units with
  | case1 =>
    cases h
    rfl
  | case2 a b rest ih =>
    obtain ⟨more, found, rfl⟩ := Option.map_eq_some_iff.mp h
    have := ih found
    simp only [List.length_cons]
    omega
  | case3 => cases h

end FlightUnits.Text
