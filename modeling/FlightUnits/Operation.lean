/-!
# Operations and their symbols

The five operations that a request can name, and the symbols by which messages show arithmetic.
-/

namespace FlightUnits

/-- An operation that a request can name. -/
inductive Operation where
  | add
  | subtract
  | multiply
  | divide
  | negate
deriving DecidableEq

namespace Operation

/-- The identifier of an operation. -/
def id : Operation → String
  | add => "add"
  | subtract => "subtract"
  | multiply => "multiply"
  | divide => "divide"
  | negate => "negate"

/-- All operations, in the order of their listing. -/
def all : List Operation := [add, subtract, multiply, divide, negate]

/-- The operation with an identifier. -/
def ofId? (s : String) : Option Operation := all.find? (·.id == s)

theorem mem_all (o : Operation) : o ∈ all := by
  cases o <;> decide

theorem ofId?_id (o : Operation) : ofId? o.id = some o := by
  cases o <;> rfl

end Operation

/-- The symbol of an arithmetic operator. -/
inductive Symbol where
  | plus
  | minus
  | times
  | slash
deriving DecidableEq

namespace Symbol

/-- The character of a symbol. -/
def text : Symbol → String
  | plus => "+"
  | minus => "-"
  | times => "*"
  | slash => "/"

/-- The operation of a symbol. -/
def operation : Symbol → Operation
  | plus => .add
  | minus => .subtract
  | times => .multiply
  | slash => .divide

end Symbol

namespace Operation

/-- The symbol of an operation on two operands. -/
def symbol? : Operation → Option Symbol
  | add => some .plus
  | subtract => some .minus
  | multiply => some .times
  | divide => some .slash
  | negate => none

theorem symbol?_eq_some_iff {o : Operation} {s : Symbol} :
    o.symbol? = some s ↔ s.operation = o := by
  cases o <;> cases s <;> decide

end Operation

end FlightUnits
