import FlightUnits.Program

/-!
# Help texts

The texts that explain the program and each of its commands, laid out for eighty columns.
-/

namespace FlightUnits.CommandLine.Help

/-- Words to choose from, between braces. -/
def choices (words : List String) : String := "\x7b" ++ ",".intercalate words ++ "\x7d"

/-- The dimensions to choose from. -/
def dimensions : String := choices (Dimension.all.map Dimension.id)

/-- The operations to choose from. -/
def operations : String := choices (Operation.all.map Operation.id)

/-- The commands to choose from. -/
def commands : String := choices (Command.all.map Command.word)

/-- A text of lines, each of which is ended. -/
def lines (text : List String) : String := String.join (text.map (· ++ "\n"))

/-- The help of the program. -/
def program : String := lines [
  "usage: aerounits [-h] [--version] [--verbose] " ++ commands ++ " ...",
  "",
  "Units-of-measure arithmetic and light plane design formulae. WARNING: Formulae",
  "are for conceptual design only, NOT for certification.",
  "",
  "positional arguments:",
  "  " ++ commands,
  "                        Available commands",
  "    units               List registered units",
  "    convert             Convert a value between units of the same dimension",
  "    calc                Apply add, subtract, multiply, divide or negate",
  "    q                   Dynamic pressure (psf) at a velocity and altitude",
  "    serve               Start the FastAPI web server",
  "",
  "options:",
  "  -h, --help            show this help message and exit",
  "  --version             show program's version number and exit",
  "  --verbose, -v         Enable debug logging"]

/-- The help of the listing of units. -/
def units : String := lines [
  "usage: aerounits units [-h]",
  "                       [--dimension " ++ dimensions ++ "]",
  "",
  "options:",
  "  -h, --help            show this help message and exit",
  "  --dimension " ++ dimensions ++ ", -d " ++ dimensions,
  "                        Only list units of this dimension"]

/-- The help of conversions. -/
def convert : String := lines [
  "usage: aerounits convert [-h] [--json] value unit to_unit",
  "",
  "positional arguments:",
  "  value       Numeric value",
  "  unit        Unit of the value, e.g. ms",
  "  to_unit     Target unit, e.g. kph",
  "",
  "options:",
  "  -h, --help  show this help message and exit",
  "  --json      Print JSON output"]

/-- The help of calculations. -/
def calculate : String := lines [
  "usage: aerounits calc [-h] [--json]",
  "                      " ++ operations ++ " a [b]",
  "",
  "positional arguments:",
  "  " ++ operations,
  "                        Operation to apply",
  "  a                     Left operand: VALUE or VALUE:UNIT",
  "  b                     Right operand: VALUE or VALUE:UNIT (omit for negate)",
  "",
  "options:",
  "  -h, --help            show this help message and exit",
  "  --json                Print JSON output"]

/-- The help of the dynamic pressure. -/
def dynamicPressure : String := lines [
  "usage: aerounits q [-h] [--altitude VALUE UNIT] [--json] value unit",
  "",
  "positional arguments:",
  "  value                 Velocity value",
  "  unit                  Velocity unit, e.g. knots",
  "",
  "options:",
  "  -h, --help            show this help message and exit",
  "  --altitude VALUE UNIT, -a VALUE UNIT",
  "                        Altitude (default sea level)",
  "  --json                Print JSON output"]

/-- The help of the service. -/
def serve : String := lines [
  "usage: aerounits serve [-h] [--host HOST] [--port PORT] [--reload]",
  "",
  "options:",
  "  -h, --help            show this help message and exit",
  "  --host HOST           Host to bind to (default: 127.0.0.1)",
  "  --port PORT, -p PORT  Port to listen on (default: 8000)",
  "  --reload              Enable auto-reload for development"]

/-- The help of a command. -/
def ofCommand : Command → String
  | .units => units
  | .convert => convert
  | .calculate => calculate
  | .dynamicPressure => dynamicPressure
  | .serve => serve

end FlightUnits.CommandLine.Help
