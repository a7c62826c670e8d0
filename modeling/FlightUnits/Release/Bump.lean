import FlightUnits.Release.Version
import FlightUnits.Release.VersionLine

/-!
# Setting the version

The version stands in two files of the sources, which are set one after the other. A file is
written only if its text changes, and then with its line breaks as line feeds. Where a file is
missing or has no version line, the files before it have been written already.
-/

namespace FlightUnits.Release

/-- A file that holds the version. -/
inductive SourceFile where
  | package
  | project
deriving DecidableEq

namespace SourceFile

/-- The files that hold the version, in the order in which they are set. -/
def all : List SourceFile := [package, project]

/-- The path of a file. -/
def path : SourceFile → String
  | package => "aerounits/__init__.py"
  | project => "pyproject.toml"

/-- The key of the version line of a file. -/
def key : SourceFile → String
  | package => "__version__"
  | project => "version"

end SourceFile

/-- The texts of the files that hold the version; a file may be missing. -/
structure Sources where
  package : Option String
  project : Option String
deriving DecidableEq

namespace Sources

/-- The text of a file. -/
def get? (s : Sources) : SourceFile → Option String
  | .package => s.package
  | .project => s.project

/-- The sources with a new text for a file. -/
def set (s : Sources) (file : SourceFile) (text : String) : Sources :=
  match file with
  | .package => ⟨some text, s.project⟩
  | .project => ⟨s.package, some text⟩

end Sources

/-- Why the version is not set. -/
inductive BumpFault where
  | invalidVersion (version : String)
  | noVersionLine (file : SourceFile)
  | missingFile (file : SourceFile)
deriving DecidableEq

namespace BumpFault

/-- The text of a fault; a missing file is reported by the system. -/
def message : BumpFault → String
  | invalidVersion version => "Not a valid version: " ++ version
  | noVersionLine file => "No version line found in " ++ file.path
  | missingFile file => file.path

end BumpFault

/-- The text of a file as it is read, and with the version set. -/
def setVersion (file : SourceFile) (version content : String) :
    Except BumpFault (List Char × List Char) :=
  let text := Text.normalized content.toList
  match replaceVersionLine? file.key.toList version.toList text with
  | some newText => .ok (text, newText)
  | none => .error (.noVersionLine file)

/-- Sets the version in some files one after the other, and tells which of them change. -/
def bumpFiles (version : String) (dryRun : Bool) :
    List SourceFile → Sources → Sources × Except BumpFault (List SourceFile)
  | [], s => (s, .ok [])
  | file :: files, s =>
    match s.get? file with
    | none => (s, .error (.missingFile file))
    | some content =>
      match setVersion file version content with
      | .error fault => (s, .error fault)
      | .ok (text, newText) =>
        if text = newText then bumpFiles version dryRun files s
        else
          let written := if dryRun then s else s.set file (String.ofList newText)
          let (after, changed) := bumpFiles version dryRun files written
          (after, changed.map (file :: ·))

/-- Sets the version, and tells which files change; a dry run writes nothing. -/
def bump (version : String) (dryRun : Bool) (s : Sources) :
    Sources × Except BumpFault (List SourceFile) :=
  if isVersion version then bumpFiles version dryRun SourceFile.all s
  else (s, .error (.invalidVersion version))

end FlightUnits.Release
