import FlightUnits.Calculator
import FlightUnits.Proofs.DoubleArithmetic
import FlightUnits.Script.Failure

/-!
# Trees of calculations

A tree of operations can be evaluated in two ways: by the operations on operands themselves, or from
the leaves up by a request for each node, which takes the `result` fields of the answers below it as
its operands. Every request of the second way is valid, because what the calculator writes it reads
back, and asks for what the first way does at the node. So the answers are those of the operations,
as long as their values are finite. Between an answer and the next request a result may become a
text; all that is asked of that is that finite doubles come out of it as they went in.
-/

namespace FlightUnits

open Standard

namespace Request

/-! ### Reading what was written -/

lemma field_eq_ok {β : Type} {record data : Json} {name : String} {read : Json → Checked β} {x : β}
    (hfield : record.field? name = some data) (hread : read data = .ok x) :
    field record name read = .ok x := by
  rw [field, hfield]
  dsimp only
  rw [hread]
  rfl

lemma member_id (o : Operation) : member Operation.ofId? (.text o.id) = .ok o := by
  rw [member, Operation.ofId?_id]

lemma quantity_toJson (q : Quantity Binary64) : quantity q.toJson = .ok q := by
  have hvalue : field q.toJson "value" real = .ok q.value := field_eq_ok rfl rfl
  have hunit : field q.toJson "unit" (member MeasureUnit.ofId?) = .ok q.unit := by
    refine field_eq_ok rfl ?_
    rw [member, MeasureUnit.ofId?_id]
  have hrecord : object q.toJson = .ok q.toJson := rfl
  rw [quantity, hrecord, ok_bind, hvalue, hunit]
  rfl

lemma operand_toJson (x : Operand Binary64) : operand x.toJson = .ok x := by
  cases x with
  | number x => rfl
  | quantity q =>
    have hnumber : real q.toJson = Checked.refuse .notANumber q.toJson := rfl
    rw [operand, Operand.toJson, hnumber, quantity_toJson]
    rfl

lemma optionalField_operand {record : Json} {name : String} {y : Operand Binary64}
    (hfield : record.field? name = some y.toJson) :
    optionalField record name operand = .ok (some y) := by
  have hread : Checked.inside name ((operand y.toJson).map some) = .ok (some y) := by
    rw [operand_toJson]
    rfl
  rw [optionalField, hfield, ← hread]
  cases y <;> rfl

/-- Operands that were written are read again, so their number alone decides about a request. -/
lemma calculationRecord_eq_ok {fields : List (String × Json)} {o : Operation}
    {x : Operand Binary64} {y : Option (Operand Binary64)} {request : CalculationRequest}
    (ho : (Json.object fields).field? "operation" = some (.text o.id))
    (hx : (Json.object fields).field? "a" = some x.toJson)
    (hy : optionalField (.object fields) "b" operand = .ok y)
    (harrange : arrange? o x y = some request) :
    calculationRecord (.object fields) = .ok request := by
  have hoperation : field (.object fields) "operation" (member Operation.ofId?) = .ok o :=
    field_eq_ok ho (member_id o)
  have ha : field (.object fields) "a" operand = .ok x := field_eq_ok hx (operand_toJson x)
  have hrecord : object (.object fields) = .ok (.object fields) := rfl
  have hread : calculation (.object fields) = .ok request := by
    rw [calculation, hrecord, ok_bind, hoperation, ha, hy]
    simp only [Checked.both, ok_bind, harrange, pure_eq_ok]
  rw [calculationRecord, record, hread]
  rfl

end Request

/-- A result tells an operand that an operation came to, with what is known of its unit. -/
structure CalculationResult.Tells (result : CalculationResult) (operation : Operation)
    (r : Operand Number) : Prop where
  operation_eq : result.operation = operation
  result_eq : result.result.map Number.real = r
  dimension_eq : result.dimension = r.unit?.map Standard.dimension
  description_eq : result.description = r.unit?.map Standard.description

namespace CalculationRequest

/-- A request for an operation on operands that are JSON trees already. -/
def data (operation : Operation) (a : Json) : Option Json → Json
  | none => .object [("operation", .text operation.id), ("a", a)]
  | some b => .object [("operation", .text operation.id), ("a", a), ("b", b)]

lemma calculationRecord_negate (x : Operand Binary64) :
    Request.calculationRecord (data .negate x.toJson none) = .ok (.negate x) :=
  Request.calculationRecord_eq_ok rfl rfl rfl rfl

lemma calculationRecord_combine (symbol : Symbol) (x y : Operand Binary64) :
    Request.calculationRecord (data symbol.operation x.toJson (some y.toJson)) =
      .ok (.combine symbol x y) := by
  have harrange : Request.arrange? symbol.operation x (some y) = some (.combine symbol x y) := by
    cases symbol <;> rfl
  exact Request.calculationRecord_eq_ok rfl rfl (Request.optionalField_operand rfl) harrange

/-! ### Single requests -/

/-- What the calculator answers to data, which must make a request first. -/
def answer (data : Json) : Except Failure CalculationResult := do
  let request ← (Request.calculationRecord data).mapError .rejection
  calculate machineTables request

lemma answer_eq_ok_iff {data : Json} {request : CalculationRequest} {result : CalculationResult}
    (h : Request.calculationRecord data = .ok request) :
    answer data = .ok result ↔ calculate machineTables request = .ok result := by
  rw [← mapError_eq_ok_iff (f := Failure.fault), answer, h]
  rfl

lemma endsDouble_evaluate (request : CalculationRequest) :
    Operand.EndsDouble (request.evaluate machineTables) := by
  cases request with
  | negate a =>
    cases a with
    | number x => exact .ok ⟨.number x.neg, rfl⟩
    | quantity q => exact .ok ⟨.quantity ⟨q.value.neg, q.unit⟩, rfl⟩
  | combine symbol a b => exact Operand.endsDouble_apply symbol a b

lemma isFinite_map (x : Operand Binary64) :
    (x.map Number.real).value.isFinite = x.value.isFinite := by
  cases x <;> rfl

lemma unit?_map (x : Operand Binary64) : (x.map Number.real).unit? = x.unit? := by
  cases x <;> rfl

variable {request : CalculationRequest} {x : Operand Binary64} {f : Fault Number}

lemma calculate_of_finite (h : request.evaluate machineTables = .ok (x.map Number.real))
    (hx : x.value.isFinite) :
    calculate machineTables request =
      .ok ⟨request.operation, x, x.unit?.map dimension, x.unit?.map description⟩ := by
  rw [calculate, h, ok_bind, isFinite_map, hx]
  cases x with
  | number y => rfl
  | quantity q =>
    simp only [Operand.map, machineTables, units_tables, dimension_quantity, description_quantity]
    rfl

lemma calculate_of_not_finite (h : request.evaluate machineTables = .ok (x.map Number.real))
    (hx : ¬ x.value.isFinite) :
    calculate machineTables request =
      .error (.nonFinite request.operation (x.map Number.real).value) := by
  rw [calculate, h, ok_bind, isFinite_map, Bool.not_eq_true _ |>.mp hx]
  rfl

lemma calculate_of_error (h : request.evaluate machineTables = .error f) :
    calculate machineTables request = .error f := by
  rw [calculate, h, error_bind]

/-- A calculation succeeds with what the operation comes to, if that is finite. -/
lemma calculate_eq_ok_iff {result : CalculationResult} :
    calculate machineTables request = .ok result ↔
      ∃ r, request.evaluate machineTables = .ok r ∧ r.value.isFinite ∧
        result.Tells request.operation r := by
  constructor
  · intro h
    rcases hr : request.evaluate machineTables with f | r
    · rw [calculate_of_error hr] at h
      exact nomatch h
    · obtain ⟨x, rfl⟩ := request.endsDouble_evaluate.of_eq_ok hr
      by_cases hx : x.value.isFinite
      · rw [calculate_of_finite hr hx] at h
        obtain rfl := Except.ok.inj h
        refine ⟨x.map Number.real, rfl, ?_, rfl, rfl, ?_, ?_⟩
        · rwa [isFinite_map]
        · rw [unit?_map]
        · rw [unit?_map]
      · rw [calculate_of_not_finite hr hx] at h
        exact nomatch h
  · rintro ⟨r, hr, hfinite, htells⟩
    obtain ⟨operation, x, d, text⟩ := result
    obtain ⟨hoperation, rfl, hdimension, hdescription⟩ := htells
    dsimp only at hr hfinite hoperation hdimension hdescription
    rw [unit?_map] at hdimension hdescription
    rw [isFinite_map] at hfinite
    rw [calculate_of_finite hr hfinite, hoperation, hdimension, hdescription]

/-- A calculation fails as its operation does, or because the result is not finite. -/
lemma calculate_eq_error_iff :
    calculate machineTables request = .error f ↔
      request.evaluate machineTables = .error f ∨
        ∃ r, request.evaluate machineTables = .ok r ∧ ¬ r.value.isFinite ∧
          f = .nonFinite request.operation r.value := by
  constructor
  · intro h
    rcases hr : request.evaluate machineTables with g | r
    · rw [calculate_of_error hr] at h
      exact .inl (by rw [Except.error.inj h])
    · obtain ⟨x, rfl⟩ := request.endsDouble_evaluate.of_eq_ok hr
      by_cases hx : x.value.isFinite
      · rw [calculate_of_finite hr hx] at h
        exact nomatch h
      · rw [calculate_of_not_finite hr hx] at h
        rw [← isFinite_map] at hx
        exact .inr ⟨_, rfl, hx, (Except.error.inj h).symm⟩
  · rintro (hr | ⟨r, hr, hfinite, rfl⟩)
    · exact calculate_of_error hr
    · obtain ⟨x, rfl⟩ := request.endsDouble_evaluate.of_eq_ok hr
      rw [isFinite_map] at hfinite
      exact calculate_of_not_finite hr hfinite

end CalculationRequest

/-- A tree of operations on numbers and quantities of double precision. -/
inductive Calculation where
  | leaf (x : Operand Binary64)
  | combine (symbol : Symbol) (a b : Calculation)
  | negate (a : Calculation)

namespace Calculation

/-- What a tree comes to by the operations on operands. -/
def evaluate : Calculation → Except (Fault Number) (Operand Number)
  | leaf x => .ok (x.map Number.real)
  | combine symbol a b => do
    let x ← a.evaluate
    let y ← b.evaluate
    Operand.apply machineTables symbol x y
  | negate a => do
    let x ← a.evaluate
    return x.negate

/--
What a tree comes to by requests: the `result` field of the answer at its root, as it is carried
into the next request.
-/
def throughRequests (carry : Json → Json) : Calculation → Except Failure Json
  | leaf x => .ok x.toJson
  | combine symbol a b => do
    let x ← a.throughRequests carry
    let y ← b.throughRequests carry
    let result ← CalculationRequest.answer
      (CalculationRequest.data symbol.operation x (some y))
    return carry ((result.toJson.field? "result").getD .null)
  | negate a => do
    let x ← a.throughRequests carry
    let result ← CalculationRequest.answer (CalculationRequest.data .negate x none)
    return carry ((result.toJson.field? "result").getD .null)

/-- Operands of finite doubles are carried unchanged; of others nothing is known. -/
def KeepsFinite (carry : Json → Json) : Prop :=
  ∀ x : Operand Binary64, x.value.isFinite → carry x.toJson = x.toJson

/-- The data that a node asks the calculator for, once its operands have been answered. -/
inductive Asks (carry : Json → Json) : Calculation → Json → Prop where
  | combine {symbol : Symbol} {a b : Calculation} {x y : Json}
      (ha : a.throughRequests carry = .ok x) (hb : b.throughRequests carry = .ok y) :
      Asks carry (combine symbol a b) (CalculationRequest.data symbol.operation x (some y))
  | negate {a : Calculation} {x : Json} (ha : a.throughRequests carry = .ok x) :
      Asks carry (negate a) (CalculationRequest.data .negate x none)

def HasFiniteLeaves : Calculation → Prop
  | leaf x => x.value.isFinite
  | combine _ a b => a.HasFiniteLeaves ∧ b.HasFiniteLeaves
  | negate a => a.HasFiniteLeaves

def nodes : Calculation → List Calculation
  | leaf x => [leaf x]
  | combine symbol a b => combine symbol a b :: (a.nodes ++ b.nodes)
  | negate a => negate a :: a.nodes

def operands : Calculation → List Calculation
  | leaf _ => []
  | combine _ a b => [a, b]
  | negate a => [a]

def operation? : Calculation → Option Operation
  | leaf _ => none
  | combine symbol _ _ => some symbol.operation
  | negate _ => some .negate

/-- A request does at a node of a tree what the operation of the node does there. -/
structure IsSimulated (c : Calculation) (request : CalculationRequest) : Prop where
  operation : c.operation? = some request.operation
  operands : ∀ a ∈ c.operands, ∃ x, a.evaluate = .ok x ∧ x.value.isFinite
  result_iff : ∀ result, calculate machineTables request = .ok result ↔
    ∃ r, c.evaluate = .ok r ∧ r.value.isFinite ∧ result.Tells request.operation r
  fault_iff : ∀ f, calculate machineTables request = .error f ↔
    c.evaluate = .error f ∨ ∃ r, c.evaluate = .ok r ∧ ¬ r.value.isFinite ∧
      f = .nonFinite request.operation r.value
  kind : ∀ f, c.evaluate = .error f → f.kind ∈ calculationFaults

@[simp] lemma mem_operands_combine {symbol : Symbol} {a b c : Calculation} :
    c ∈ (combine symbol a b).operands ↔ c = a ∨ c = b := by
  simp [operands]

@[simp] lemma mem_operands_negate {a c : Calculation} : c ∈ (negate a).operands ↔ c = a := by
  simp [operands]

lemma HasFiniteLeaves.of_mem_nodes {c e : Calculation} (he : e.HasFiniteLeaves)
    (hc : c ∈ e.nodes) : c.HasFiniteLeaves := by
  induction e with
  | leaf x =>
    rw [nodes, List.mem_singleton] at hc
    exact hc ▸ he
  | combine symbol a b iha ihb =>
    obtain ⟨ha, hb⟩ := he
    rw [nodes, List.mem_cons, List.mem_append] at hc
    rcases hc with rfl | hc | hc
    · exact ⟨ha, hb⟩
    · exact iha ha hc
    · exact ihb hb hc
  | negate a ih =>
    rw [nodes, List.mem_cons] at hc
    rcases hc with rfl | hc
    · exact he
    · exact ih he hc

lemma HasFiniteLeaves.of_mem_operands {a c : Calculation} (hc : c.HasFiniteLeaves)
    (ha : a ∈ c.operands) : a.HasFiniteLeaves := by
  cases c with
  | leaf x => exact absurd ha List.not_mem_nil
  | combine symbol b b' =>
    rcases mem_operands_combine.mp ha with rfl | rfl
    · exact hc.1
    · exact hc.2
  | negate b =>
    obtain rfl := mem_operands_negate.mp ha
    exact hc

/-! ### One node -/

/-- What is answered for a tree is the finite operand that the tree comes to. -/
def IsAnswered (carry : Json → Json) (c : Calculation) : Prop :=
  ∀ j, c.throughRequests carry = .ok j → ∃ x : Operand Binary64,
    j = x.toJson ∧ c.evaluate = .ok (x.map Number.real) ∧ x.value.isFinite

variable {carry : Json → Json} {c : Calculation} {data j : Json} {request : CalculationRequest}

/-- Answers are operands that can be read, so the data of a node makes the request of the node. -/
lemma Asks.exists_request (h : c.Asks carry data)
    (hoperands : ∀ a ∈ c.operands, a.IsAnswered carry) :
    ∃ request, Request.calculationRecord data = .ok request ∧
      c.operation? = some request.operation ∧
      request.evaluate machineTables = c.evaluate := by
  cases h with
  | @combine symbol a b x y ha hb =>
    obtain ⟨x, rfl, hx, -⟩ := hoperands a (by simp) _ ha
    obtain ⟨y, rfl, hy, -⟩ := hoperands b (by simp) _ hb
    have hread := CalculationRequest.calculationRecord_combine symbol x y
    refine ⟨.combine symbol x y, hread, rfl, ?_⟩
    rw [evaluate, hx, hy]
    rfl
  | @negate a x ha =>
    obtain ⟨x, rfl, hx, -⟩ := hoperands a (by simp) _ ha
    have hread := CalculationRequest.calculationRecord_negate x
    refine ⟨.negate x, hread, rfl, ?_⟩
    rw [evaluate, hx]
    rfl

lemma exists_asks (hc : c.operation?.isSome)
    (hoperands : ∀ a ∈ c.operands, ∃ j, a.throughRequests carry = .ok j) :
    ∃ data, c.Asks carry data := by
  cases c with
  | leaf x => contradiction
  | combine symbol a b =>
    obtain ⟨x, hx⟩ := hoperands a (by simp)
    obtain ⟨y, hy⟩ := hoperands b (by simp)
    exact ⟨_, .combine hx hy⟩
  | negate a =>
    obtain ⟨x, hx⟩ := hoperands a (by simp)
    exact ⟨_, .negate hx⟩

lemma Asks.exists_answer {a : Calculation} (h : c.Asks carry data) (ha : a ∈ c.operands) :
    ∃ j, a.throughRequests carry = .ok j := by
  cases h with
  | combine hx hy =>
    rcases mem_operands_combine.mp ha with rfl | rfl
    · exact ⟨_, hx⟩
    · exact ⟨_, hy⟩
  | negate hx =>
    obtain rfl := mem_operands_negate.mp ha
    exact ⟨_, hx⟩

lemma Asks.throughRequests_eq (h : c.Asks carry data) :
    c.throughRequests carry = (do
      let result ← CalculationRequest.answer data
      return carry result.result.toJson) := by
  cases h with
  | combine hx hy =>
    rw [throughRequests, hx, ok_bind, hy, ok_bind]
    rfl
  | negate hx =>
    rw [throughRequests, hx, ok_bind]
    rfl

/-- Where an answer has been given the node has asked for it. -/
lemma exists_asks_of_answer (hc : c.operation?.isSome) (h : c.throughRequests carry = .ok j) :
    ∃ data, c.Asks carry data := by
  cases c with
  | leaf x => contradiction
  | combine symbol a b =>
    obtain ⟨x, hx, h⟩ := bind_eq_ok_iff.mp h
    obtain ⟨y, hy, -⟩ := bind_eq_ok_iff.mp h
    exact ⟨_, .combine hx hy⟩
  | negate a =>
    obtain ⟨x, hx, -⟩ := bind_eq_ok_iff.mp h
    exact ⟨_, .negate hx⟩

/-- A node that asks for something is answered with the finite operand it comes to, or not. -/
lemma Asks.throughRequests_eq_ok_iff (hcarry : KeepsFinite carry) (h : c.Asks carry data)
    (hoperands : ∀ a ∈ c.operands, a.IsAnswered carry) :
    c.throughRequests carry = .ok j ↔ ∃ x : Operand Binary64,
      j = x.toJson ∧ c.evaluate = .ok (x.map Number.real) ∧ x.value.isFinite := by
  obtain ⟨request, hread, -, hevaluate⟩ := h.exists_request hoperands
  rw [h.throughRequests_eq, ← hevaluate]
  constructor
  · intro hj
    obtain ⟨result, hresult, hj⟩ := bind_eq_ok_iff.mp hj
    rw [CalculationRequest.answer_eq_ok_iff hread] at hresult
    obtain ⟨r, hr, hfinite, htells⟩ := CalculationRequest.calculate_eq_ok_iff.mp hresult
    obtain rfl := htells.result_eq
    rw [CalculationRequest.isFinite_map] at hfinite
    refine ⟨result.result, ?_, hr, hfinite⟩
    rw [← Except.ok.inj hj, hcarry _ hfinite]
  · rintro ⟨x, rfl, hx, hfinite⟩
    have hanswer := (CalculationRequest.answer_eq_ok_iff hread).mpr
      (CalculationRequest.calculate_of_finite hx hfinite)
    rw [hanswer, ok_bind, hcarry x hfinite]
    rfl

lemma isAnswered_of_operands (hcarry : KeepsFinite carry) (hc : c.operation?.isSome)
    (hoperands : ∀ a ∈ c.operands, a.IsAnswered carry) : c.IsAnswered carry := by
  intro j hj
  obtain ⟨data, hdata⟩ := exists_asks_of_answer hc hj
  exact (hdata.throughRequests_eq_ok_iff hcarry hoperands).mp hj

/-- A node is answered when its operands are and the node comes to a finite operand. -/
lemma exists_throughRequests_iff_operands (hcarry : KeepsFinite carry) (hc : c.operation?.isSome)
    (hoperands : ∀ a ∈ c.operands, a.IsAnswered carry) :
    (∃ j, c.throughRequests carry = .ok j) ↔
      (∀ a ∈ c.operands, ∃ j, a.throughRequests carry = .ok j) ∧
        ∃ r, c.evaluate = .ok r ∧ r.value.isFinite := by
  constructor
  · rintro ⟨j, hj⟩
    obtain ⟨data, hdata⟩ := exists_asks_of_answer hc hj
    obtain ⟨x, -, hx, hfinite⟩ := (hdata.throughRequests_eq_ok_iff hcarry hoperands).mp hj
    rw [← CalculationRequest.isFinite_map] at hfinite
    exact ⟨fun a ha => hdata.exists_answer ha, _, hx, hfinite⟩
  · rintro ⟨hanswers, r, hr, hfinite⟩
    obtain ⟨data, hdata⟩ := exists_asks hc hanswers
    obtain ⟨request, -, -, hevaluate⟩ := hdata.exists_request hoperands
    obtain ⟨x, rfl⟩ := request.endsDouble_evaluate.of_eq_ok (hevaluate.trans hr)
    rw [CalculationRequest.isFinite_map] at hfinite
    exact ⟨_, (hdata.throughRequests_eq_ok_iff hcarry hoperands).mpr ⟨x, rfl, hr, hfinite⟩⟩

lemma isSimulated_of_evaluate (hoperation : c.operation? = some request.operation)
    (hoperands : ∀ a ∈ c.operands, ∃ r, a.evaluate = .ok r ∧ r.value.isFinite)
    (hevaluate : request.evaluate machineTables = c.evaluate) : c.IsSimulated request where
  operation := hoperation
  operands := hoperands
  result_iff result := by
    rw [CalculationRequest.calculate_eq_ok_iff, ← hevaluate]
  fault_iff f := by
    rw [CalculationRequest.calculate_eq_error_iff, ← hevaluate]
  kind f hf := (request.endsDouble_evaluate.of_eq_error (hevaluate.trans hf)).kind_mem

/-! ### Whole trees -/

lemma HasFiniteLeaves.isAnswered (hcarry : KeepsFinite carry) (h : c.HasFiniteLeaves) :
    c.IsAnswered carry := by
  induction c with
  | leaf x =>
    intro j hj
    exact ⟨x, (Except.ok.inj hj).symm, rfl, h⟩
  | combine symbol a b iha ihb =>
    obtain ⟨ha, hb⟩ := h
    refine isAnswered_of_operands hcarry rfl ?_
    intro c hc
    rcases mem_operands_combine.mp hc with rfl | rfl
    · exact iha ha
    · exact ihb hb
  | negate a ih =>
    refine isAnswered_of_operands hcarry rfl ?_
    intro c hc
    obtain rfl := mem_operands_negate.mp hc
    exact ih h

lemma HasFiniteLeaves.exists_throughRequests_iff (hcarry : KeepsFinite carry)
    (h : c.HasFiniteLeaves) :
    (∃ j, c.throughRequests carry = .ok j) ↔
      ∀ d ∈ c.nodes, ∃ r, d.evaluate = .ok r ∧ r.value.isFinite := by
  induction c with
  | leaf x =>
    have hx : (x.map Number.real).value.isFinite := by
      rw [CalculationRequest.isFinite_map]
      exact h
    simp only [nodes, List.mem_singleton, forall_eq]
    exact ⟨fun _ => ⟨_, rfl, hx⟩, fun _ => ⟨_, rfl⟩⟩
  | combine symbol a b iha ihb =>
    have hnode := exists_throughRequests_iff_operands hcarry (c := combine symbol a b) rfl
      fun d hd => (h.of_mem_operands hd).isAnswered hcarry
    simp only [mem_operands_combine, forall_eq_or_imp, forall_eq] at hnode
    rw [hnode, iha h.1, ihb h.2, nodes, List.forall_mem_cons, List.forall_mem_append]
    exact and_comm
  | negate a ih =>
    have hnode := exists_throughRequests_iff_operands hcarry (c := negate a) rfl
      fun d hd => (h.of_mem_operands hd).isAnswered hcarry
    simp only [mem_operands_negate, forall_eq] at hnode
    rw [hnode, ih h, nodes, List.forall_mem_cons]
    exact and_comm

/--
The requests for a tree do what its operations do, node by node. Every node that is reached makes a
valid request, and the answer is the result of the operation if that is finite, and otherwise the
failure of the operation or the refusal of the result. No operation fails other than as
`calculationFaults` tells. The root is answered when all nodes come to finite operands.
-/
theorem requests_simulate_operations (hcarry : KeepsFinite carry) {e : Calculation}
    (he : e.HasFiniteLeaves) :
    (∀ c ∈ e.nodes, ∀ data, c.Asks carry data →
      ∃ request, Request.calculationRecord data = .ok request ∧ c.IsSimulated request) ∧
    ((∃ j, e.throughRequests carry = .ok j) ↔
      ∀ c ∈ e.nodes, ∃ r, c.evaluate = .ok r ∧ r.value.isFinite) := by
  refine ⟨fun c hc data hdata => ?_, he.exists_throughRequests_iff hcarry⟩
  have hfinite : c.HasFiniteLeaves := he.of_mem_nodes hc
  have hanswered : ∀ a ∈ c.operands, a.IsAnswered carry :=
    fun a ha => (hfinite.of_mem_operands ha).isAnswered hcarry
  obtain ⟨request, hread, hoperation, hevaluate⟩ := hdata.exists_request hanswered
  refine ⟨request, hread, isSimulated_of_evaluate hoperation ?_ hevaluate⟩
  intro a ha
  obtain ⟨j, hj⟩ := hdata.exists_answer ha
  obtain ⟨x, -, hx, hvalue⟩ := hanswered a ha j hj
  refine ⟨x.map Number.real, hx, ?_⟩
  rwa [CalculationRequest.isFinite_map]

/-- One foot and six inches. -/
def lengthSum : Calculation :=
  combine .plus (leaf (.quantity ⟨.ofInt 1, .foot⟩)) (leaf (.quantity ⟨.ofInt 6, .inch⟩))

/-- The speed of covering them in two seconds. -/
def sumSpeed : Calculation := combine .slash lengthSum (leaf (.quantity ⟨.ofInt 2, .second⟩))

theorem requests_simulate_operations_sumSpeed :
    KeepsFinite id ∧ sumSpeed.HasFiniteLeaves ∧
      ∃ j, sumSpeed.throughRequests id = .ok j ∧
        ∃ data, sumSpeed.Asks id data ∧
          ∃ request, Request.calculationRecord data = .ok request ∧
            sumSpeed.IsSimulated request := by
  have hid : KeepsFinite id := fun _ _ => rfl
  have hone : (Binary64.ofInt 1).isFinite := by decide +kernel
  have hsix : (Binary64.ofInt 6).isFinite := by decide +kernel
  have htwo : (Binary64.ofInt 2).isFinite := by decide +kernel
  have hleaves : sumSpeed.HasFiniteLeaves := by
    simp only [sumSpeed, lengthSum, HasFiniteLeaves, Operand.value, hone, hsix, htwo, and_self]
  have hspeed : (sumSpeed.throughRequests id).isOk := by decide +kernel
  obtain ⟨hnodes, -⟩ := requests_simulate_operations hid hleaves
  rcases hj : sumSpeed.throughRequests id with f | j
  · rw [hj] at hspeed
    exact nomatch hspeed
  · obtain ⟨data, hdata⟩ := exists_asks_of_answer rfl hj
    exact ⟨hid, hleaves, j, rfl, data, hdata, hnodes _ List.mem_cons_self data hdata⟩

end Calculation

end FlightUnits
