import FlightUnits.Proofs.StandardArithmetic

/-!
# Arithmetic on doubles

Requests hold double precision numbers, and whole numbers never come in again: with the standard
tables every conversion and every operation on doubles has a double as its result. A double is
never too large to be one, so nothing overflows into a fault. What can fail is the comparison of
dimensions, the relation between them, a mixture of numbers and quantities, and a division by zero.
-/

namespace FlightUnits

open Standard

/-- The kinds of faults of a calculation on doubles. -/
def calculationFaults : List FaultKind :=
  [.mixedOperands, .dimensionMismatch, .unresolvedDimension, .zeroDivision]

/-- A fault of a calculation on doubles. -/
inductive Fault.OfCalculation : Fault Number → Prop where
  | mixed (symbol : Symbol) (a b : Operand Number) : OfCalculation (.mixedOperands symbol a b)
  | mismatch (u v : MeasureUnit) : OfCalculation (mismatch u v)
  | unresolved (symbol : Symbol) (a b : Dimension) (found : Nat) :
    OfCalculation (.unresolvedDimension symbol a b found)
  | zeroDivision (whole : Bool) : OfCalculation (.arithmetic (.divisionByZero whole))

namespace Fault

variable {f : Fault Number}

lemma OfCalculation.kind_mem (h : f.OfCalculation) : f.kind ∈ calculationFaults := by
  cases h with
  | mixed => exact (by decide : FaultKind.mixedOperands ∈ calculationFaults)
  | mismatch => exact (by decide : FaultKind.dimensionMismatch ∈ calculationFaults)
  | unresolved => exact (by decide : FaultKind.unresolvedDimension ∈ calculationFaults)
  | zeroDivision => exact (by decide : FaultKind.zeroDivision ∈ calculationFaults)

lemma ofCalculation_of_unresolved (h : f.kind = .unresolvedDimension) : f.OfCalculation := by
  cases f with
  | unresolvedDimension symbol a b found => exact .unresolved symbol a b found
  | arithmetic g => cases g <;> exact nomatch h
  | _ => exact nomatch h

lemma ofCalculation_arithmetic {g : ArithmeticFault} (h : g.kind = .zeroDivision) :
    OfCalculation (.arithmetic g) := by
  cases g with
  | divisionByZero whole => exact .zeroDivision whole
  | _ => exact nomatch h

end Fault

namespace Number

/-- A step that comes to a double, unless it divides by zero. -/
abbrev EndsDouble (s : Except ArithmeticFault Number) : Prop :=
  Ends (fun z => ∃ x, z = real x) (fun g => g.kind = .zeroDivision) s

variable (x y : Binary64)

@[simp] lemma add_real : Scalar.add (real x) (real y) = .ok (real (x.add y)) := rfl

@[simp] lemma sub_real : Scalar.sub (real x) (real y) = .ok (real (x.add y.neg)) := rfl

@[simp] lemma mul_real : Scalar.mul (real x) (real y) = .ok (real (x.mul y)) := rfl

lemma endsDouble_add : EndsDouble (Scalar.add (real x) (real y)) := .ok ⟨x.add y, rfl⟩

lemma endsDouble_sub : EndsDouble (Scalar.sub (real x) (real y)) := .ok ⟨x.add y.neg, rfl⟩

lemma endsDouble_mul : EndsDouble (Scalar.mul (real x) (real y)) := .ok ⟨x.mul y, rfl⟩

@[simp] lemma toBinary64_real : toBinary64 (real x) = .ok x := rfl

/-! A number that a double can hold takes part in arithmetic on doubles as that double. -/

section Held

variable {z : Number} {y : Binary64} (hz : z.toBinary64 = .ok y)

include hz

lemma add_of_toBinary64 : Scalar.add (real x) z = .ok (real (x.add y)) := by
  have hadd : Scalar.add (real x) z = z.toBinary64.bind fun y => .ok (real (x.add y)) := rfl
  rw [hadd, hz]
  rfl

lemma sub_of_toBinary64 : Scalar.sub (real x) z = .ok (real (x.add y.neg)) := by
  have hsub : Scalar.sub (real x) z = z.toBinary64.bind fun y => .ok (real (x.add y.neg)) := rfl
  rw [hsub, hz]
  rfl

lemma div_of_toBinary64 (hy : ¬ y.isZero) : Scalar.div (real x) z = .ok (real (x.div y)) := by
  have hdiv : Scalar.div (real x) z = z.toBinary64.bind fun y =>
      if y.isZero then .error (.divisionByZero false) else .ok (real (x.div y)) := rfl
  rw [hdiv, hz]
  exact if_neg hy

lemma mul_of_toBinary64 : Scalar.mul z (real x) = .ok (real (y.mul x)) := by
  cases z with
  | int n =>
    change Number.mul (int n) (real x) = _
    simp only [Number.mul, hz, toBinary64_real, ok_bind]
  | real z =>
    obtain rfl := Except.ok.inj hz
    rfl

end Held

lemma toBinary64_int {n : Int} (h : (Binary64.ofInt n).isFinite) :
    toBinary64 (int n) = .ok (Binary64.ofInt n) := by
  rw [toBinary64, if_pos h]

lemma div_real : Scalar.div (real x) (real y) =
    if y.isZero then .error (.divisionByZero false) else .ok (real (x.div y)) := rfl

lemma endsDouble_div : EndsDouble (Scalar.div (real x) (real y)) := by
  rw [div_real]
  split
  · exact .error rfl
  · exact .ok ⟨x.div y, rfl⟩

end Number

namespace Binary64

/-- Degrees Celsius from degrees Fahrenheit. -/
def celsiusOfFahrenheit (x : Binary64) : Binary64 :=
  ((ofInt 5).div (ofInt 9)).mul (x.add (ofInt 32).neg)

/-- Degrees Fahrenheit from degrees Celsius. -/
def fahrenheitOfCelsius (x : Binary64) : Binary64 :=
  (((ofInt 9).div (ofInt 5)).mul x).add (ofInt 32)

end Binary64

section Conversions

open Number

/-- The freezing point of water is a whole number of degrees Fahrenheit. -/
lemma toBinary64_freezing : toBinary64 (.int 32) = .ok (Binary64.ofInt 32) :=
  toBinary64_int (by decide +kernel)

lemma celsiusOfFahrenheit_real (x : Binary64) :
    celsiusOfFahrenheit (real x) = .ok (real x.celsiusOfFahrenheit) := by
  have habove : Scalar.sub (real x) (Scalar.ofLiteral 32) =
      .ok (real (x.add (Binary64.ofInt 32).neg)) := sub_of_toBinary64 x toBinary64_freezing
  rw [celsiusOfFahrenheit, habove]
  rfl

lemma fahrenheitOfCelsius_real (x : Binary64) :
    fahrenheitOfCelsius (real x) = .ok (real x.fahrenheitOfCelsius) := by
  have hscaled : Scalar.mul (Scalar.ofLiteral (9 / 5)) (real x) =
      .ok (real (((Binary64.ofInt 9).div (Binary64.ofInt 5)).mul x)) := rfl
  rw [fahrenheitOfCelsius, hscaled, ok_bind]
  exact add_of_toBinary64 _ toBinary64_freezing

namespace Standard

/-- The factor of a unit to its base unit as a double, which Fahrenheit does not have. -/
def factor? (u : MeasureUnit) : Option Binary64 :=
  (entry u : Descriptor Number).conversion.factor?.map nearest

/-- A double in a unit, expressed in the base unit. -/
def doubleToBase (u : MeasureUnit) (x : Binary64) : Binary64 :=
  match factor? u with
  | some k => x.mul k
  | none => x.celsiusOfFahrenheit

/-- A double in the base unit, expressed in a unit. -/
def doubleFromBase (u : MeasureUnit) (x : Binary64) : Binary64 :=
  match factor? u with
  | some k => x.div k
  | none => x.fahrenheitOfCelsius

lemma exists_factor?_eq {u : MeasureUnit} (h : u ≠ .fahrenheit) :
    ∃ k, (entry u : Descriptor Number).conversion = .scalar (real k) ∧ factor? u = some k := by
  cases u <;> first | exact ⟨_, rfl, rfl⟩ | contradiction

lemma not_isZero_of_factor? (u : MeasureUnit) : ∀ k ∈ factor? u, ¬ k.isZero := by
  cases u <;> decide +kernel

lemma toBase_real (u : MeasureUnit) (x : Binary64) :
    (entry u).conversion.toBase (real x) = .ok (real (doubleToBase u x)) := by
  by_cases hu : u = .fahrenheit
  · subst hu
    exact celsiusOfFahrenheit_real x
  · obtain ⟨k, hk, hfactor⟩ := exists_factor?_eq hu
    rw [hk, doubleToBase, hfactor]
    rfl

/-- No factor is zero, so that the way back from the base unit is open to every double. -/
lemma fromBase_real (u : MeasureUnit) (x : Binary64) :
    (entry u).conversion.fromBase (real x) = .ok (real (doubleFromBase u x)) := by
  by_cases hu : u = .fahrenheit
  · subst hu
    exact fahrenheitOfCelsius_real x
  · obtain ⟨k, hk, hfactor⟩ := exists_factor?_eq hu
    have hzero : ¬ k.isZero := not_isZero_of_factor? u k hfactor
    rw [hk, doubleFromBase, hfactor]
    exact (div_real x k).trans (if_neg hzero)

end Standard

/-- A quantity of double precision expressed in a unit of its dimension. -/
def Quantity.inUnit (q : Quantity Binary64) (u : MeasureUnit) : Quantity Binary64 :=
  if u = q.unit then q
  else ⟨(doubleFromBase u (doubleToBase q.unit q.value)).roundPlaces convertedPlaces, u⟩

/-- Between units of one dimension every double is converted. -/
lemma convert_real {q : Quantity Binary64} {u : MeasureUnit}
    (h : dimension q.unit = dimension u) :
    (q.map real).convert units u = .ok ((q.inUnit u).map real) := by
  by_cases hu : u = q.unit
  · subst hu
    rw [Quantity.inUnit, if_pos rfl]
    exact convert_self (q.map real)
  · rw [convert_of_eq (q := q.map real) h hu, Quantity.inUnit, if_neg hu]
    simp only [Quantity.map, toBase_real, fromBase_real, liftM_ok, ok_bind]
    rfl

lemma ends_convert_real (q : Quantity Binary64) (u : MeasureUnit) :
    Ends (fun r => dimension q.unit = dimension u ∧ r = (q.inUnit u).map real)
      (fun f => f = mismatch q.unit u) ((q.map real).convert units u) := by
  by_cases hd : dimension q.unit = dimension u
  · rw [convert_real hd]
    exact .ok ⟨hd, rfl⟩
  · rw [convert_of_ne (q := q.map real) hd]
    exact .error rfl

end Conversions

namespace Operand

open Number

/-- Arithmetic on doubles as a step of a calculation. -/
lemma ends_liftM_double {s : Except ArithmeticFault Number} (hs : EndsDouble s) :
    Ends (fun z => ∃ x, z = real x) Fault.OfCalculation (liftM s) :=
  hs.liftM fun _ => Fault.ofCalculation_arithmetic

/-- A step of a calculation that comes to an operand of double precision. -/
abbrev EndsDouble (s : Except (Fault Number) (Operand Number)) : Prop :=
  Ends (fun r => ∃ c : Operand Binary64, r = c.map real) Fault.OfCalculation s

lemma endsDouble_number {s : Except ArithmeticFault Number} (hs : Number.EndsDouble s) :
    EndsDouble (do let z ← s; return number z) := by
  refine (ends_liftM_double hs).bind fun z hz => ?_
  obtain ⟨z, rfl⟩ := hz
  exact .ok ⟨number z, rfl⟩

lemma endsDouble_quantity {s : Except ArithmeticFault Number} (hs : Number.EndsDouble s)
    (u : MeasureUnit) : EndsDouble (do let z ← s; return quantity ⟨z, u⟩) := by
  refine (ends_liftM_double hs).bind fun z hz => ?_
  obtain ⟨z, rfl⟩ := hz
  exact .ok ⟨quantity ⟨z, u⟩, rfl⟩

variable {op : Number → Number → Except ArithmeticFault Number}
  (hop : ∀ x y : Binary64, Number.EndsDouble (op (real x) (real y)))

include hop

lemma endsDouble_combine (symbol : Symbol) (a b : Operand Binary64) :
    EndsDouble (combine tables symbol op (a.map real) (b.map real)) := by
  cases a with
  | number x =>
    cases b with
    | number y => exact endsDouble_number (hop x y)
    | quantity q => exact .error (.mixed ..)
  | quantity p =>
    cases b with
    | number y => exact .error (.mixed ..)
    | quantity q =>
      rw [Operand.map, Operand.map, combine_quantities]
      split
      · exact endsDouble_quantity (hop p.value q.value) p.unit
      · have hconvert : Ends (fun r => ∃ p : Quantity Binary64, r = p.map real)
            Fault.OfCalculation ((q.map real).convert units p.unit) := by
          refine (ends_convert_real q p.unit).mono (fun r hr => ⟨_, hr.2⟩) fun f hf => ?_
          exact hf ▸ .mismatch q.unit p.unit
        refine hconvert.bind fun r hr => ?_
        obtain ⟨r, rfl⟩ := hr
        exact endsDouble_quantity (hop p.value r.value) p.unit

lemma endsDouble_scale {dim : Dimension → Dimension → Except (Fault Number) Dimension}
    {Q : Dimension → Dimension → Dimension → Prop}
    (hdim : ∀ d e, Ends (Q d e) (fun f => f.kind = .unresolvedDimension) (dim d e))
    (symbol : Symbol) (a b : Operand Binary64) :
    EndsDouble (scale tables op dim symbol (a.map real) (b.map real)) := by
  cases a with
  | number x =>
    cases b with
    | number y => exact endsDouble_number (hop x y)
    | quantity q => exact endsDouble_quantity (hop x q.value) q.unit
  | quantity p =>
    cases b with
    | number y => exact endsDouble_quantity (hop p.value y) p.unit
    | quantity q =>
      rw [Operand.map, Operand.map, scale_quantities]
      have hfound := (hdim (dimension p.unit) (dimension q.unit)).mono (fun _ h => h)
        fun _ => Fault.ofCalculation_of_unresolved
      refine hfound.bind fun d _ => ?_
      simp only [Quantity.map, toBase_real, liftM_ok, ok_bind]
      exact endsDouble_quantity (hop _ _) (baseUnit d)

omit hop

/-- Operations on doubles have doubles as results, and fail as calculations do. -/
theorem endsDouble_apply (symbol : Symbol) (a b : Operand Binary64) :
    EndsDouble (apply tables symbol (a.map real) (b.map real)) := by
  cases symbol with
  | plus => exact endsDouble_combine endsDouble_add .plus a b
  | minus => exact endsDouble_combine endsDouble_sub .minus a b
  | times => exact endsDouble_scale endsDouble_mul (ends_multiplyDimensions relations) .times a b
  | slash => exact endsDouble_scale endsDouble_div (ends_divideDimensions relations) .slash a b

end Operand

end FlightUnits
