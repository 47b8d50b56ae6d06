import CrudForge.Command.Console
import CrudForge.Command.Stubs

/-!
# The words of managing stubs

What the commands on stubs print, how they fail, and what they leave.
-/

namespace CrudForge.Stubs

inductive Request
  | publish (force : Bool)
  | list
  | compare (name : String)

inductive Fault
  | settings (e : SettingsError)
  | unknownName
  | unwritable (e : WriteError)
  | unreadable (path : Path) (e : AccessError)

def Fault.failure : Fault → Failure
  | settings e => ⟨"Failed to load configuration", [e.message]⟩
  | unknownName => ⟨"Invalid stub name", []⟩
  | unwritable (.directory path e) =>
    ⟨"Failed to create directory: " ++ path.text, [e.message]⟩
  | unwritable (.file path e) => ⟨"Failed to write stub: " ++ path.text, [e.message]⟩
  | unreadable path e => ⟨"Failed to read stub: " ++ path.text, [e.message]⟩

/-- What a run prints, how it ends, and what it leaves. -/
structure Run where
  output : String
  outcome : Except Fault Unit
  files : FileSystem

def handlingLine (glyphs : Glyphs) : String × Handling → String
  | (name, .kept) => "  - " ++ name ++ " (exists, use --force to replace)\n"
  | (name, .written) => "  " ++ glyphs.check ++ name ++ "\n"

/-- The text of copying stubs. Only a complete run tells the number. -/
def publicationText (glyphs : Glyphs) (directory : Path) (p : Publication) : String :=
  glyphs.folder ++ "Publishing stubs to " ++ directory.text ++ "\n\n" ++
    Text.concat (p.done.map (handlingLine glyphs)) ++
    match p.outcome with
    | .ok () => "\n" ++ glyphs.check ++ "Published " ++ toString p.count ++ " stubs\n"
    | .error _ => ""

def stubLine (glyphs : Glyphs) : String × Bool → String
  | (name, true) => "    " ++ glyphs.custom ++ name ++ "\n"
  | (name, false) => "      " ++ name ++ "\n"

def othersText (glyphs : Glyphs) (others : List String) : String :=
  if others.isEmpty then ""
  else
    "\n  Not used by the generator:\n" ++
      Text.concat (others.map fun name => "    " ++ glyphs.file ++ name ++ "\n")

def surveyText (glyphs : Glyphs) (directory : Path) (s : Survey) : String :=
  glyphs.folder ++ "Stubs\n\n  Directory: " ++ directory.text ++ "\n\n" ++
    Text.concat (s.stubs.map (stubLine glyphs)) ++ othersText glyphs s.others ++
    "\n  " ++ toString s.customised ++ " customised, " ++ toString s.builtin ++ " built-in\n"

/-- The text of a comparison, and the fault in it. -/
def comparisonText (glyphs : Glyphs) (name : String) : Comparison → String × Except Fault Unit
  | .unknown =>
    ("Unknown stub: " ++ name ++ "\n\nAvailable stubs:\n" ++
      Text.concat (stubNames.map fun stub => "  - " ++ stub ++ "\n"), .error .unknownName)
  | .notCustomised => ("Stub '" ++ name ++ "' is not customised (using built-in)\n", .ok ())
  | .unreadable path e => ("", .error (.unreadable path e))
  | .compared edits =>
    (glyphs.file ++ name ++ "\n\n" ++ Text.concat (edits.map Diff.shown) ++ "\n", .ok ())

def publicationOutcome (p : Publication) : Except Fault Unit :=
  p.outcome.mapError .unwritable

def run (fs : FileSystem) (env : Environment) (root : Path) (settingsFile : Option Path)
    (request : Request) : Run :=
  let glyphs := Glyphs.ofEnvironment env
  match Settings.load fs env root settingsFile with
  | .error e => ⟨"", .error (.settings e), fs⟩
  | .ok settings =>
    let stubs := StubDirectory.of root settings
    match request with
    | .publish force =>
      let p := publish stubs force fs
      ⟨publicationText glyphs stubs.directory p, publicationOutcome p, p.files⟩
    | .list => ⟨surveyText glyphs stubs.directory (survey stubs fs), .ok (), fs⟩
    | .compare name =>
      let (text, outcome) := comparisonText glyphs name (compare stubs fs name)
      ⟨text, outcome, fs⟩

end CrudForge.Stubs
