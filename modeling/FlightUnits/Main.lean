import FlightUnits.CommandLine.Run
import FlightUnits.Standard

/-!
# The program

Reads the command line, prints what it comes to with the standard tables, and leaves with its
status. Starting the service is left to its host.
-/

/-- The program. -/
def main (args : List String) : IO UInt32 := do
  let outcome := FlightUnits.CommandLine.run FlightUnits.Standard.machineTables args
  IO.print outcome.output
  IO.eprint outcome.errors
  return UInt32.ofNat outcome.ending.status
