import FlightUnits.CommandLine.Invocation
import FlightUnits.Arithmetic
import FlightUnits.Request.Basic

/-!
# Traces of verbose runs

What a verbose run reports besides its result: the command, conversions that are refused for their
dimensions, and for products and quotients of two quantities the dimension that was found and the
result. Entries are computed from the same tables as the results themselves.
-/

namespace FlightUnits

/-- An entry of a trace. -/
inductive TraceEntry where
  | running (command : CommandLine.Command)
  | serving (host : String) (port : Int)
  | refusedConversion (source target : MeasureUnit) (sourceDimension targetDimension : Dimension)
  | foundDimension (symbol : Symbol) (left right result : Dimension)
  | computed (symbol : Symbol) (left right result : Quantity Number)

namespace TraceEntry

/-- An entry as it is reported: a level, the part of the program, and what happened. -/
def text : TraceEntry → String
  | running command => "DEBUG aerounits.cli.main: Running command " ++ command.word
  | serving host port =>
    "INFO aerounits.cli.main: Serving aerounits API on " ++ host ++ ":" ++ toString port
  | refusedConversion source target sourceDimension targetDimension =>
    "DEBUG aerounits.units.convert: Rejected conversion " ++ source.id ++ " -> " ++ target.id ++
      " (" ++ sourceDimension.id ++ " vs " ++ targetDimension.id ++ ")"
  | foundDimension symbol left right result =>
    "DEBUG aerounits.units.algebra: " ++ left.id ++ " " ++ symbol.text ++ " " ++ right.id ++
      " -> " ++ result.id
  | computed symbol left right result =>
    "DEBUG aerounits.units.arithmetic: " ++ left.text ++ " " ++ symbol.text ++ " " ++
      right.text ++ " -> " ++ result.text

end TraceEntry

/-- The trace of a conversion. -/
def Quantity.convertTrace (t : UnitTable Number) (q : Quantity Number) (target : MeasureUnit) :
    List TraceEntry :=
  match t.find? q.unit, t.find? target with
  | some source, some goal =>
    if source.dimension = goal.dimension then []
    else [.refusedConversion q.unit target source.dimension goal.dimension]
  | _, _ => []

namespace Operand

/-- The dimension of the product or quotient of two dimensions. -/
def scaledDimension (t : Tables Number) (symbol : Symbol) (a b : Dimension) :
    Except (Fault Number) Dimension :=
  if symbol = .slash then divideDimensions t.relations a b else multiplyDimensions t.relations a b

/-- The trace of a product or quotient of two quantities. -/
def scaleTrace (t : Tables Number) (symbol : Symbol) (p q : Quantity Number) : List TraceEntry :=
  match t.units.find? p.unit, t.units.find? q.unit with
  | some left, some right =>
    match scaledDimension t symbol left.dimension right.dimension with
    | .ok result =>
      .foundDimension symbol left.dimension right.dimension result ::
        (match apply t symbol (.quantity p) (.quantity q) with
        | .ok (.quantity r) => [.computed symbol p q r]
        | _ => [])
    | .error _ => []
  | _, _ => []

/-- The trace of an operation. -/
def trace (t : Tables Number) (symbol : Symbol) : Operand Number → Operand Number →
    List TraceEntry
  | quantity p, quantity q =>
    match symbol with
    | .plus | .minus => if p.unit = q.unit then [] else q.convertTrace t.units p.unit
    | .times | .slash => scaleTrace t symbol p q
  | _, _ => []

end Operand

/-- The trace of a calculation. -/
def CalculationRequest.trace (t : Tables Number) : CalculationRequest → List TraceEntry
  | negate _ => []
  | combine symbol a b => Operand.trace t symbol (a.map Number.real) (b.map Number.real)

/-- The trace of a conversion. -/
def ConvertRequest.trace (t : UnitTable Number) (request : ConvertRequest) : List TraceEntry :=
  (request.quantity.map Number.real).convertTrace t request.target

/-- The trace of a dynamic pressure; the altitude is not reached when the velocity is refused. -/
def DynamicPressureRequest.trace (t : UnitTable Number) (request : DynamicPressureRequest) :
    List TraceEntry :=
  let velocity := request.velocity.map Number.real
  match velocity.convert t .milePerHour, request.altitude with
  | .error _, _ => velocity.convertTrace t .milePerHour
  | .ok _, some altitude => (altitude.map Number.real).convertTrace t .foot
  | .ok _, none => []

end FlightUnits
