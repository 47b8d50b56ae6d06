import CrudForge.Command.Console
import CrudForge.Command.Scaffold

/-!
# The words of scaffolding

The texts of the notices and faults of `Scaffold.run`, and the keys that answer its question.
-/

namespace CrudForge.Scaffold

/-- A path as it is shown: from the root of the project on. -/
def shown (layout : Layout) (p : Path) : String :=
  (layout.relative p).text

def fileLine (sign : String) (layout : Layout) (kind : ArtifactKind) (p : Path) : String :=
  "  " ++ sign ++ shown layout p ++ " (" ++ kind.describe ++ ")\n"

def Standing.text (layout : Layout) (artifact : Artifact) : Standing → String
  | new lines =>
    "\nnew " ++ shown layout artifact.path ++ " (" ++ artifact.kind.describe ++ ", " ++
      toString lines ++ " lines)\n"
  | unchanged => "\nunchanged " ++ shown layout artifact.path ++ "\n"
  | replaced edits =>
    "\nreplace " ++ shown layout artifact.path ++ "\n" ++
      Text.concat ((edits.filter (·.fate ≠ .keep)).map Diff.shown)

def reportText (glyphs : Glyphs) (layout : Layout) (report : Report) : String :=
  "\nGenerated " ++ toString report.written.length ++ " files:\n" ++
    Text.concat (report.written.map fun (kind, p) => fileLine glyphs.check layout kind p) ++
    "  " ++ glyphs.check ++ Text.trim report.routeLine ++ " → " ++ report.routeTarget ++ "\n"

/-- What was generated before a run stopped, and what was not. -/
def stopText (glyphs : Glyphs) (layout : Layout) (written : List (ArtifactKind × Path))
    (missing : List Artifact) : String :=
  "\nGeneration stopped after writing " ++ toString written.length ++ " of " ++
    toString (written.length + missing.length) ++ " files:\n" ++
    Text.concat (written.map fun (kind, p) => fileLine glyphs.check layout kind p) ++
    Text.concat (missing.map fun artifact =>
      fileLine glyphs.cross layout artifact.kind artifact.path)

def readyText (glyphs : Glyphs) (name : String) : String :=
  let plural := Naming.plural name
  "\n" ++ glyphs.sparkle ++ "CRUD scaffold for " ++ name ++ " is ready!\n" ++
    "\nNext steps:\n" ++
    "  1. Create a migration for the " ++ plural ++ " table\n" ++
    "  2. Fill in the options of any generated <select> fields\n" ++
    "  3. Grant the view/create/edit/delete-" ++ plural ++
    " permissions to the roles that need them\n"

def Notice.message (glyphs : Glyphs) : Notice → Message
  | start name => .output ("\nScaffolding CRUD for " ++ name ++ " ...\n")
  | dryRun => .output "\nDry run: nothing will be written\n"
  | standing layout artifact s => .output (s.text layout artifact)
  | routeAppended layout line =>
    .output ("\nappend " ++ Text.trim line ++ " → " ++ shown layout layout.routeFile ++ "\n")
  | warning layout existing =>
    .output ("\nWarning: these files already exist and will be replaced:\n" ++
      Text.concat (existing.map fun artifact => "  - " ++ shown layout artifact.path ++ "\n"))
  | generated layout report => .output (reportText glyphs layout report)
  | stopped layout written missing => .error (stopText glyphs layout written missing)
  | ready name => .output (readyText glyphs name)

def Fault.failure : Fault → Failure
  | settings e => ⟨"Failed to load configuration", [e.message]⟩
  | fields e => ⟨"Failed to parse --fields", [e.message]⟩
  | name e => ⟨"Failed to create scaffold generator", [e.message]⟩
  | stub e => ⟨"Failed to render scaffold files", [e.message, e.fault.message]⟩
  | unreadable path e => ⟨"Failed to read " ++ path.text, [e.message]⟩
  | refused =>
    ⟨"Refusing to overwrite existing files without a terminal; pass --force to overwrite", []⟩
  | noAnswer => ⟨"Failed to read confirmation", ["IO error: not a terminal", "not a terminal"]⟩
  | declined => ⟨"Aborted: existing files were left untouched", []⟩
  | stopped (.stub e) => ⟨"Failed to write scaffold files", [e.message, e.fault.message]⟩
  | stopped (.write e) => ⟨"Failed to write scaffold files", [e.message, e.cause.message]⟩

/-- The answer that a key gives, if it gives one. Enter stands for no. -/
def answerOfKey? (key : Char) : Option Answer :=
  if key = 'y' || key = 'Y' then some .yes
  else if key = 'n' || key = 'N' || key = '\n' || key = '\r' then some .no
  else none

/-- The answer that the first key with a meaning gives. -/
def answerOfKeys (keys : String) : Answer :=
  (keys.toList.findSome? answerOfKey?).getD .failed

end CrudForge.Scaffold
