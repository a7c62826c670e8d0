import FlightUnits.Json.Basic
import FlightUnits.Operation

/-!
# Issues of a request

What is wrong with the data of a request: a kind, the path to the place and the data found there.
Reading collects the issues of all fields in their order instead of stopping at the first, so
`Checked` values are combined by `Checked.both`, which fails with the issues of both sides.
-/

namespace FlightUnits

/-- What can be wrong at one place of the data. -/
inductive IssueKind where
  /-- A required field that is not there. -/
  | missing
  /-- Something else where a record is expected. -/
  | notARecord
  /-- Something that is not the identifier of a member of a closed set. -/
  | notAMember
  /-- Something that cannot stand for a real number. -/
  | notANumber
  /-- A text that is no numeral. -/
  | notANumeral
  /-- A text with a surrogate code in it. -/
  | notText
  /-- A number that is not greater than its bound. -/
  | notGreater
  /-- A number of operands that the operation does not take. -/
  | operandCount (operation : Operation)
  /-- A body that is no JSON text. -/
  | malformed
deriving DecidableEq

namespace IssueKind

/-- The name of a kind of issue. -/
def name : IssueKind → String
  | missing => "missing"
  | notARecord => "model_type"
  | notAMember => "enum"
  | notANumber => "float_type"
  | notANumeral => "float_parsing"
  | notText => "string_unicode"
  | notGreater => "greater_than"
  | operandCount _ => "value_error"
  | malformed => "json_invalid"

/-- The explanation that some kinds of issues carry. -/
def explanation? : IssueKind → Option String
  | operandCount .negate => some "Value error, negate takes a single operand"
  | operandCount operation => some ("Value error, " ++ operation.id ++ " needs two operands")
  | _ => none

end IssueKind

/-- An issue at one place of the data, with the data to which it applies. -/
structure Issue where
  kind : IssueKind
  path : List String
  data : Json

namespace Issue

/-- The issue as seen from the record that holds the data in a field. -/
def inside (field : String) (issue : Issue) : Issue := { issue with path := field :: issue.path }

end Issue

/-- Data read from a request, or all issues found in it. -/
abbrev Checked (α : Type) := Except (List Issue) α

namespace Checked

variable {α β : Type}

/-- A single issue at the place itself. -/
def refuse (kind : IssueKind) (data : Json) : Checked α := .error [⟨kind, [], data⟩]

/-- The data of a field, its issues seen from the record. -/
def inside (field : String) (c : Checked α) : Checked α :=
  c.mapError fun issues => issues.map (Issue.inside field)

/-- The data of two places, or the issues of both. -/
def both : Checked α → Checked β → Checked (α × β)
  | .ok a, .ok b => .ok (a, b)
  | .ok _, .error issues => .error issues
  | .error issues, .ok _ => .error issues
  | .error issues, .error others => .error (issues ++ others)

theorem both_eq_ok {c : Checked α} {d : Checked β} {a : α} {b : β} :
    both c d = .ok (a, b) ↔ c = .ok a ∧ d = .ok b := by
  cases c <;> cases d <;> simp [both]

end Checked

/-- A record that the data of a request does not make, with everything that is wrong. -/
structure Rejection where
  record : String
  issues : List Issue

namespace Rejection

/-- The text of a rejection. -/
def message (r : Rejection) : String :=
  let count := r.issues.length
  toString count ++ (if count = 1 then " validation error for " else " validation errors for ") ++
    r.record

end Rejection

end FlightUnits
