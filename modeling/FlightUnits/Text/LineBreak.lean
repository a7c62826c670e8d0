/-!
# Line breaks

A text is read with every line break as a single line feed. Some patterns overlook one line break
at the end of a text.
-/

namespace FlightUnits.Text

/-- The text with its line breaks as single line feeds. -/
def normalized : List Char → List Char
  | [] => []
  | '\r' :: '\n' :: rest => '\n' :: normalized rest
  | c :: rest => (if c = '\r' then '\n' else c) :: normalized rest

/-- The text without a line break at its end. -/
def dropFinalBreak (s : List Char) : List Char :=
  if s.getLast? = some '\n' then s.dropLast else s

/-- A normalized text has no carriage return. -/
theorem not_mem_normalized (s : List Char) : '\r' ∉ normalized s := by
  fun_induction normalized s with
  | case1 => simp
  | case2 rest ih => simpa using ih
  | case3 c rest _ ih =>
    by_cases h : c = '\r'
    · simpa [h] using ih
    · simpa [h, Ne.symm h] using ih

end FlightUnits.Text
