import FlightUnits.CommandLine.Run
import FlightUnits.Proofs.OperandWords
import FlightUnits.Proofs.PrintedNumbers
import FlightUnits.Proofs.WordRoles

/-!
# Printed quantities as operands

A printed quantity becomes an operand with a colon in place of the blank. It is read as the quantity
that was printed, but a minus sign in front makes a flag of the word, which no grammar knows, and so
the operand is missed unless the word stands after the divider.
-/

namespace FlightUnits

open Standard CommandLine

lemma MeasureUnit.not_mem_id (u : MeasureUnit) :
    ' ' ∉ u.id.toList ∧ '=' ∉ u.id.toList ∧ '\x7b' ∉ u.id.toList := by
  cases u <;> decide

lemma MeasureUnit.id_ne (u : MeasureUnit) : u.id ≠ "" := by
  cases u <;> decide

namespace Binary64

/-- Whether the text of a number has a minus sign. -/
def isNegative : Binary64 → Bool
  | finite s _ | infinite s => s
  | nan _ => false

lemma not_isNaN_of_isFinite {x : Binary64} (hx : x.isFinite) : ¬ x.isNaN := by
  intro hnan
  cases x with
  | nan => cases hx
  | finite | infinite => cases hnan

lemma isFinite_neg {x : Binary64} (hx : x.isFinite) : x.neg.isFinite := by
  cases x with
  | finite => rfl
  | infinite | nan => cases hx

lemma neg_neg_of_isFinite {x : Binary64} (hx : x.isFinite) : x.neg.neg = x := by
  cases x with
  | finite s m => rw [Binary64.neg, Binary64.neg, Bool.not_not]
  | infinite | nan => cases hx

lemma isNegative_neg {x : Binary64} (hx : x.isFinite) : x.neg.isNegative = !x.isNegative := by
  cases x with
  | finite => rfl
  | infinite | nan => cases hx

end Binary64

namespace CommandLine

variable {q : Quantity Binary64}

/-- The word for a printed quantity: its two texts with a colon between them. -/
def operandWord (q : Quantity Binary64) : String := (Number.real q.value).text ++ ":" ++ q.unit.id

lemma toList_operandWord (q : Quantity Binary64) : (operandWord q).toList =
    (Binary64.Layout.plain.write q.value).toList ++ ':' :: q.unit.id.toList := by
  rw [operandWord, String.toList_append, String.toList_append, List.append_assoc]
  rfl

/-- A printed quantity is read as the quantity. -/
lemma wordAsOperand_operandWord (hq : q.value.isFinite) :
    wordAsOperand (operandWord q) = .ok (.tagged q.value q.unit.id) := by
  have hnumber := Binary64.not_isNaN_of_isFinite hq
  obtain ⟨-, hcolon, -⟩ := Binary64.Layout.plain.not_mem_write q.value
  exact wordAsOperand_eq_ok_iff.mpr (WrittenOperand.ofText?_eq_tagged_iff.mpr
    ⟨_, hcolon, rfl, q.unit.id_ne, Binary64.Layout.ofText?_write _ hnumber⟩)

/-- The role of a printed quantity is decided by its sign. -/
lemma role_operandWord {σ : Type} {g : Grammar σ} (hletters : g.HasLetters)
    (hq : q.value.isFinite) :
    g.role (operandWord q) = .ok (if q.value.isNegative then .unknownFlag else .argument) := by
  have hword := toList_operandWord q
  obtain ⟨hblank, hequals, -⟩ := q.unit.not_mem_id
  obtain ⟨hblank', -, hequals', -⟩ := Binary64.Layout.plain.not_mem_write q.value
  cases hvalue : q.value with
  | finite s m =>
    obtain ⟨c, cs, heq, hc, -⟩ := Binary64.Layout.plain.decimal?_finite s m
    have hwrite : (Binary64.Layout.plain.write (.finite s m)).toList =
        (if s then ['-'] else []) ++ c :: cs := by
      rw [← heq, Binary64.Layout.write, String.toList_ofList]
    rw [hvalue, hwrite] at hword hblank' hequals'
    cases s with
    | false =>
      refine Grammar.role_of_not_minus ?_
      rw [hword]
      rintro ⟨⟩
      exact absurd hc (by decide)
    | true =>
      have hrest {d : Char} (hd : d ∉ '-' :: c :: cs) (hne : d ≠ ':')
          (hid : d ∉ q.unit.id.toList) : d ∉ cs ++ ':' :: q.unit.id.toList := by
        simp only [List.mem_cons, List.mem_append, not_or] at hd ⊢
        exact ⟨hd.2.2, hne, hid⟩
      exact Grammar.role_of_colon hletters hword hc (by simp) (hrest hequals' (by decide) hequals)
        (hrest hblank' (by decide) hblank)
  | infinite | nan =>
    rw [hvalue] at hq
    cases hq

/-! ### Words of a negation -/

/-- The words that negate a quantity, as it was printed. -/
def negationWords (q : Quantity Binary64) : List String := ["calc", "negate", operandWord q]

/-- The words that negate a quantity, with the divider before what was printed. -/
def dividedWords (q : Quantity Binary64) : List String := ["calc", "negate", "--", operandWord q]

/-- What a negation of an operand asks for. -/
def negationSettings (x : WrittenOperand) : CalculateSettings := ⟨.negate, some x, none, false⟩

lemma operandWord_ne_divider (q : Quantity Binary64) : operandWord q ≠ "--" := by
  intro h
  have hcolon : ':' ∈ (operandWord q).toList := by
    rw [toList_operandWord]
    simp
  rw [h] at hcolon
  exact absurd hcolon (by decide)

section Reading

variable {w : String} {x : WrittenOperand} {words : List String} {c : CalculateSettings}
  {halt : Halt}

lemma hasLetters_calculateGrammar : calculateGrammar.HasLetters := by
  have hnames : ∀ name ∈ calculateGrammar.names.map Prod.fst,
      name.toList[1]?.any Char.isDigit = false := by decide
  intro p hp
  exact hnames p.1 (List.mem_map_of_mem hp)

lemma hasLetters_programGrammar : programGrammar.HasLetters := by
  have hnames : ∀ name ∈ programGrammar.names.map Prod.fst,
      name.toList[1]?.any Char.isDigit = false := by decide
  intro p hp
  exact hnames p.1 (List.mem_map_of_mem hp)

lemma dropDivider_singleton (hw : w ≠ "--") : dropDivider [w] = [w] := by
  rw [dropDivider, List.erase_cons_tail (by simpa using hw), List.erase_nil]

/-- The word of the operand fills the slot of the left operand. -/
lemma act_left (hw : w ≠ "--") (hx : wordAsOperand w = .ok x) :
    withWord wordAsOperand (fun a (s : CalculateSettings) => { s with left := some a })
      (dropDivider [w]) ⟨.negate, none, none, false⟩ = .ok (negationSettings x) := by
  rw [dropDivider_singleton hw, withWord, hx]
  rfl

lemma read_negation (hw : w ≠ "--") (hx : wordAsOperand w = .ok x)
    (hrole : calculateGrammar.role w = .ok .argument) :
    calculateGrammar.read ["negate", w] ⟨.add, none, none, false⟩ =
      .ok (negationSettings x, []) := by
  have hroles : calculateGrammar.roles ["negate", w] =
      .ok [("negate", .argument), (w, .argument)] :=
    Grammar.roles_cons (by decide) rfl (Grammar.roles_cons hw hrole rfl)
  have hfill : calculateGrammar.fill calculateGrammar.slots
      [("negate", .argument), (w, .argument)] ⟨.add, none, none, false⟩ =
        .ok ([], negationSettings x, 2) := by
    refine Grammar.fill_cons (n := 1) (k := 1) rfl rfl ?_
    refine Grammar.fill_cons (n := 1) (k := 0) rfl (act_left hw hx) ?_
    exact Grammar.fill_cons (n := 0) (k := 0) rfl rfl rfl
  exact Grammar.read_of_fill hroles rfl hfill

lemma read_dividedNegation (hw : w ≠ "--") (hx : wordAsOperand w = .ok x) :
    calculateGrammar.read ["negate", "--", w] ⟨.add, none, none, false⟩ =
      .ok (negationSettings x, []) := by
  have hroles : calculateGrammar.roles ["negate", "--", w] =
      .ok [("negate", .argument), ("--", .divider), (w, .argument)] :=
    Grammar.roles_cons (by decide) rfl rfl
  have hfill : calculateGrammar.fill calculateGrammar.slots
      [("negate", .argument), ("--", .divider), (w, .argument)] ⟨.add, none, none, false⟩ =
        .ok ([], negationSettings x, 3) := by
    refine Grammar.fill_cons (n := 2) (k := 1) rfl rfl ?_
    refine Grammar.fill_cons (n := 1) (k := 0) rfl (act_left hw hx) ?_
    exact Grammar.fill_cons (n := 0) (k := 0) rfl rfl rfl
  exact Grammar.read_of_fill hroles rfl hfill

/-- An operand that counts as a flag is missed. -/
lemma read_unknownFlag (hw : w ≠ "--") (hrole : calculateGrammar.role w = .ok .unknownFlag) :
    calculateGrammar.read ["negate", w] ⟨.add, none, none, false⟩ =
      .error (.refused "aerounits calc" "the following arguments are required: a") := by
  have hroles : calculateGrammar.roles ["negate", w] =
      .ok [("negate", .argument), (w, .unknownFlag)] :=
    Grammar.roles_cons (by decide) rfl (Grammar.roles_cons hw hrole rfl)
  have hfill : calculateGrammar.fill calculateGrammar.slots
      [("negate", .argument), (w, .unknownFlag)] ⟨.add, none, none, false⟩ =
        .ok (calculateGrammar.slots.tail, ⟨.negate, none, none, false⟩, 1) :=
    Grammar.fill_cons (n := 1) rfl rfl (Grammar.fill_cons_none rfl)
  have hempty : calculateGrammar.fill calculateGrammar.slots.tail []
      ⟨.negate, none, none, false⟩ =
        .ok (calculateGrammar.slots.tail, ⟨.negate, none, none, false⟩, 0) :=
    Grammar.fill_cons_none rfl
  rw [Grammar.read, hroles, ok_bind, Grammar.readFrom_before (n := 0) rfl hfill, List.drop_zero,
    Grammar.readFrom, Grammar.readFrom, hempty]
  rfl

/-- The name of a command takes all words with it. -/
lemma take?_command {roles : List (String × Role Invocation)}
    (hroles : programGrammar.roles words = .ok roles) :
    Slot.take? .remainder ((("calc", Role.argument) :: roles).map Prod.snd) =
        some (roles.length + 1) ∧
      Slot.wordsFor .remainder (((("calc", Role.argument) :: roles).take (roles.length + 1)).map
        Prod.fst) = "calc" :: words := by
  constructor
  · simp [Slot.take?, Role.isDivider, Role.isArgument]
  · rw [List.take_of_length_le (by simp), List.map_cons, Grammar.map_fst_of_roles hroles]
    rfl

lemma actOnCommand_calc (words : List String) (s : Invocation) :
    actOnCommand ("calc" :: words) s =
      (readTask words .calculate).mapError Complaint.ended >>= fun task =>
        .ok { s with task := some task.1, extras := s.extras ++ task.2 } := rfl

/-- What the command reads of the words after its name is what the program reads. -/
lemma read_calculate {roles : List (String × Role Invocation)}
    (hroles : programGrammar.roles words = .ok roles)
    (hflags : (roles.any fun word => word.2.isFlag) = false)
    (hread : calculateGrammar.read words ⟨.add, none, none, false⟩ = .ok (c, [])) :
    Invocation.read ("calc" :: words) = .ok ⟨false, some (.calculate c), []⟩ := by
  have hall : programGrammar.roles ("calc" :: words) = .ok (("calc", .argument) :: roles) :=
    Grammar.roles_cons (by decide) rfl hroles
  have hact : actOnCommand ("calc" :: words) ⟨false, none, []⟩ =
      .ok ⟨false, some (.calculate c), []⟩ := by
    have htask : readTask words .calculate = .ok (.calculate c, []) := by
      rw [readTask, hread]
      rfl
    rw [actOnCommand_calc, htask]
    rfl
  obtain ⟨htake, hwords⟩ := take?_command hroles
  have hfill : programGrammar.fill programGrammar.slots (("calc", .argument) :: roles)
      ⟨false, none, []⟩ = .ok ([], ⟨false, some (.calculate c), []⟩, roles.length + 1) := by
    refine Grammar.fill_cons (k := 0) htake ?_ rfl
    exact hwords ▸ hact
  rw [Invocation.read, Grammar.readAll, Grammar.read_of_fill hall hflags hfill]
  rfl

lemma read_calculate_error {roles : List (String × Role Invocation)}
    (hroles : programGrammar.roles words = .ok roles)
    (hread : calculateGrammar.read words ⟨.add, none, none, false⟩ = .error halt) :
    Invocation.read ("calc" :: words) = .error halt := by
  have hall : programGrammar.roles ("calc" :: words) = .ok (("calc", .argument) :: roles) :=
    Grammar.roles_cons (by decide) rfl hroles
  have hact : actOnCommand ("calc" :: words) ⟨false, none, []⟩ = .error (.ended halt) := by
    rw [actOnCommand_calc, readTask, hread]
    rfl
  obtain ⟨htake, hwords⟩ := take?_command hroles
  have hfill : programGrammar.fill programGrammar.slots (("calc", .argument) :: roles)
      ⟨false, none, []⟩ = .error (programGrammar.naming "command" (.ended halt)) := by
    refine Grammar.fill_cons_error htake ?_
    exact hwords ▸ hact
  rw [Invocation.read, Grammar.readAll, Grammar.read, hall, ok_bind, Grammar.readFrom_error hfill,
    error_bind, error_bind]
  rfl

end Reading

end CommandLine

end FlightUnits
