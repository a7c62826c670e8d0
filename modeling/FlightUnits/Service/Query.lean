/-!
# Query strings

A query is a list of assignments between ampersands. In names and values a plus sign stands for a
blank, and a percent sign with two hexadecimal digits for a byte. Bytes outside ASCII are read as
the replacement character: no name and no value that the service knows holds one. An assignment
without an equals sign gives the empty text, and of several assignments to a name the last counts.
-/

namespace FlightUnits.Service.Query

/-- The value of a hexadecimal digit. -/
def hexValue? (c : Char) : Option Nat :=
  if '0' ≤ c ∧ c ≤ '9' then some (c.toNat - 48)
  else if 'a' ≤ c ∧ c ≤ 'f' then some (c.toNat - 87)
  else if 'A' ≤ c ∧ c ≤ 'F' then some (c.toNat - 55)
  else none

/-- The character of a byte. -/
def charOfByte (n : Nat) : Char := if n < 128 then Char.ofNat n else Char.ofNat 0xfffd

/-- The text that a part of a query stands for. -/
def decode : List Char → List Char
  | [] => []
  | '%' :: a :: b :: rest =>
    match hexValue? a, hexValue? b with
    | some high, some low => charOfByte (16 * high + low) :: decode rest
    | _, _ => '%' :: decode (a :: b :: rest)
  | c :: rest => (if c = '+' then ' ' else c) :: decode rest

/-- The name and the value of an assignment. -/
def assignment (s : List Char) : String × String :=
  match s.span (· != '=') with
  | (name, rest) => (String.ofList (decode name), String.ofList (decode (rest.drop 1)))

/-- The assignments of a query; nothing between two ampersands is none. -/
def assignments (query : String) : List (String × String) :=
  ((query.toList.splitOn '&').filter fun part => !part.isEmpty).map assignment

/-- The value that a query gives to a name: the last of several. -/
def value? (query name : String) : Option String := (assignments query).reverse.lookup name

end FlightUnits.Service.Query
