import FlightUnits.Convert

/-!
# The standard atmosphere

The density of the air relative to sea level, read from a short table of altitudes with linear
interpolation between neighbouring samples. Altitudes outside the table are refused.
-/

namespace FlightUnits.Flight

variable {α : Type} [Scalar α]

/-- The first pair of neighbouring samples whose inputs enclose `x`. -/
def enclosing? (x : α) : List (α × α) → Option ((α × α) × (α × α))
  | p :: q :: rest =>
    if Scalar.le p.1 x && Scalar.le x q.1 then some (p, q) else enclosing? x (q :: rest)
  | _ => none

/-- The samples that enclose a value are neighbours. -/
theorem of_enclosing? {x : α} {samples : List (α × α)} {p q : α × α}
    (h : enclosing? x samples = some (p, q)) :
    (p, q) ∈ samples.zip samples.tail ∧ Scalar.le p.1 x ∧ Scalar.le x q.1 := by
  fun_induction enclosing? x samples with
  | case1 p q rest hin =>
    obtain ⟨rfl, rfl⟩ := Prod.mk.inj (Option.some.inj h)
    exact ⟨List.mem_cons_self, Bool.and_eq_true _ _ ▸ hin⟩
  | case2 p q rest hout ih => exact ⟨List.mem_cons_of_mem _ (ih h).1, (ih h).2⟩
  | case3 => cases h

/-- The output at `x` on the line through two samples. -/
def onLine (x : α) (p q : α × α) : Except ArithmeticFault α := do
  let along ← Scalar.sub x p.1
  let width ← Scalar.sub q.1 p.1
  let t ← Scalar.div along width
  let rise ← Scalar.sub q.2 p.2
  let change ← Scalar.mul t rise
  Scalar.add p.2 change

/-- The output at `x` of the piecewise linear function of a table of samples. -/
def interpolate (x : α) : List (α × α) → Except (Fault α) α
  | first :: second :: rest =>
    match enclosing? x (first :: second :: rest) with
    | some (p, q) => onLine x p q
    | none => throw (.outsideRange x first.1 ((second :: rest).getLastD second).1)
  | _ => throw .tooFewSamples

/-- Samples of the density ratio: an altitude in feet, and the ratio there. -/
def densityRatioSamples : List (Literal × Literal) :=
  [(0, 1.0), (5000, 0.86), (10000, 0.74), (15000, 0.63), (20000, 0.53)]

/-- The samples of the density ratio as values. -/
def densityRatioTable : List (α × α) :=
  densityRatioSamples.map fun sample => (Scalar.ofLiteral sample.1, Scalar.ofLiteral sample.2)

/-- Sea level, as an altitude. -/
def seaLevel : Quantity α := ⟨Scalar.ofLiteral 0, .foot⟩

/-- The density of the air at an altitude relative to sea level. -/
def densityRatio (t : UnitTable α) (altitude : Quantity α) : Except (Fault α) α := do
  let feet ← altitude.convert t .foot
  interpolate feet.value densityRatioTable

end FlightUnits.Flight
