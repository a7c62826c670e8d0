import FlightUnits.Text.Blank

/-!
# Routes

The paths of the service and the method that each of them takes. A fixed path may be followed by a
line break, and an identifier of a unit is any text without a slash. A path that is a route but for
slashes at its end is redirected.
-/

namespace FlightUnits.Service

/-- A place of the service. -/
inductive Route where
  | health
  | units
  | unit (id : String)
  | dimensions
  | convert
  | calculate
  | dynamicPressure
  | stallSpeed
deriving DecidableEq

/-- Where a request leads. -/
inductive Destination where
  | reached (route : Route)
  | wrongMethod
  | redirected
  | nowhere
deriving DecidableEq

namespace Route

/-- The fixed paths. -/
def fixed : List (String × Route) := [
  ("/health", health),
  ("/units", units),
  ("/dimensions", dimensions),
  ("/convert", convert),
  ("/calculate", calculate),
  ("/aero/dynamic-pressure", dynamicPressure),
  ("/aero/stall-speed", stallSpeed)]

/-- The path of a single unit, up to its identifier. -/
def unitPath : String := "/units/"

/-- The identifier of a unit in a path. -/
def unitId? (path : String) : Option String :=
  if unitPath.toList.isPrefixOf path.toList then
    let id := path.toList.drop unitPath.length
    if id.isEmpty || id.contains '/' then none else some (String.ofList id)
  else none

/-- The route of a path. -/
def ofPath? (path : String) : Option Route :=
  match fixed.find? fun (fixedPath, _) => path == fixedPath || path == fixedPath ++ "\n" with
  | some (_, route) => some route
  | none => (unitId? path).map unit

/-- The method that a route takes. -/
def method : Route → String
  | health | units | unit _ | dimensions => "GET"
  | convert | calculate | dynamicPressure | stallSpeed => "POST"

/-- A path without the slashes at its end. -/
def withoutSlashes (path : String) : String :=
  String.ofList (path.toList.reverse.dropWhile (· == '/')).reverse

end Route

/-- Where a method and a path lead. -/
def Destination.of (method path : String) : Destination :=
  match Route.ofPath? path with
  | some route => if method = route.method then .reached route else .wrongMethod
  | none =>
    if (Route.ofPath? (Route.withoutSlashes path)).isSome then .redirected else .nowhere

end FlightUnits.Service
