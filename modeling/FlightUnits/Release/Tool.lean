import FlightUnits.CommandLine.Invocation
import FlightUnits.Release.Bump

/-!
# The release tool

The command line that sets the version: it takes the version and perhaps asks for a dry run, tells
the files that change and the version, and stops with a message where the version is not set.
-/

namespace FlightUnits.Release

/-- The help of the release tool. -/
def help : String := CommandLine.Help.lines [
  "usage: bump_version.py [-h] [--dry-run] version",
  "",
  "Bump the aerounits version",
  "",
  "positional arguments:",
  "  version     New version, e.g. 0.2.0",
  "",
  "options:",
  "  -h, --help  show this help message and exit",
  "  --dry-run   Report without writing"]

/-- The settings of the release tool. -/
structure ToolSettings where
  version : String
  dryRun : Bool

/-- The grammar of the release tool. -/
def toolGrammar : CommandLine.Grammar ToolSettings where
  program := "bump_version.py"
  flags := [
    CommandLine.helpFlag help,
    CommandLine.switch ["--dry-run"] fun s => { s with dryRun := true }]
  slots := [
    ⟨"version", .one, CommandLine.withWord .ok fun word s => { s with version := word }⟩]

/-- How a run of the release tool ends. -/
inductive ToolEnding where
  | finished
  | exited (status : Nat)
  | stopped (fault : BumpFault)
deriving DecidableEq

/-- What a run of the release tool comes to. -/
structure ToolOutcome where
  ending : ToolEnding
  output : String
  errors : String
  sources : Sources
deriving DecidableEq

/-- The report of the files that change and of the version. -/
def toolReport (settings : ToolSettings) (changed : List SourceFile) : String :=
  let verb := if settings.dryRun then "Would update " else "Updated "
  String.join (changed.map fun file => verb ++ file.path ++ "\n") ++
    "Version " ++ settings.version ++ "\n"

/-- What the words of a command line of the release tool come to. -/
def runTool (words : List String) (s : Sources) : ToolOutcome :=
  match toolGrammar.readAll words ⟨"", false⟩ fun _ => [] with
  | .error (.shown text) => ⟨.exited 0, text, "", s⟩
  | .error (.refused program message) =>
    ⟨.exited 2, "", program ++ ": error: " ++ message ++ "\n", s⟩
  | .ok settings =>
    match bump settings.version settings.dryRun s with
    | (after, .ok changed) => ⟨.finished, toolReport settings changed, "", after⟩
    | (after, .error fault) => ⟨.stopped fault, "", "", after⟩

end FlightUnits.Release
