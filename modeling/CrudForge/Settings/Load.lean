import CrudForge.FileSystem.Access
import CrudForge.Settings.Environment
import CrudForge.Settings.Stack
import CrudForge.Toml.Document

/-!
# Loading settings

The settings of a project come from the environment, from a file that the user names, and from the
file in the root of the project, in this order.

## Main definitions

* `SettingsError` — the ways in which loading fails, worded by `SettingsError.message`.
* `Settings.load` — the settings from all sources.
* `Settings.loadProject` — the settings from the project's own file only.
-/

namespace CrudForge

/-- What is wrong with a file of settings as a whole. -/
inductive FileFault
  | notText
  | invalid
  deriving DecidableEq

def FileFault.message : FileFault → String
  | notText => AccessError.notText.message
  | invalid => "TOML parse error"

/-- A file of settings that cannot be used, named as seen from the working directory. -/
structure BadFile where
  file : Path
  fault : FileFault
  deriving DecidableEq

def BadFile.message (bad : BadFile) : String :=
  bad.fault.message ++ "\n in " ++ (Settings.Origin.file bad.file).describe

inductive SettingsError
  | missingFile (path : Path)
  | badFiles (files : List BadFile)
  | mismatch (m : Settings.Mismatch)

def SettingsError.message (e : SettingsError) : String :=
  "configuration error: " ++
    match e with
    | missingFile path => "configuration file not found: " ++ path.text
    | badFiles files => Text.join "\n" (files.map BadFile.message)
    | mismatch m => m.message

namespace Settings

def fileName : Path :=
  ⟨"crudgen.toml"⟩

/-- The way from the directory with these components to what `components` name. -/
def wayFrom : List Component → List Component → List Component
  | base, [] => base.map fun _ => .up
  | [], components => components
  | b :: base, c :: components =>
    if b = c then wayFrom base components else (b :: base).map (fun _ => .up) ++ c :: components

def componentText : Component → String
  | .root => "/"
  | .here => "."
  | .up => ".."
  | .name text => text

def pathOf (l : Location) : Path :=
  ⟨"/" ++ Text.join "/" (l.reverse.map (·.text))⟩

/-- A path as seen from the working directory, where that is shorter than from the root. -/
def shownPath (fs : FileSystem) (p : Path) : Path :=
  let full := (pathOf fs.workingDirectory).join p
  let way := wayFrom (pathOf fs.workingDirectory).components full.components
  if way.length < full.components.length then ⟨Text.join "/" (way.map componentText)⟩ else full

/-- The table in a file; none if there is no such file. -/
def readSource (fs : FileSystem) (p : Path) : Except BadFile (Option Sourced) :=
  if fs.isFile p then
    match fs.readText p with
    | .error _ => .error ⟨shownPath fs p, .notText⟩
    | .ok text =>
      match Toml.parse? text with
      | none => .error ⟨shownPath fs p, .invalid⟩
      | some value => .ok (some ⟨.file (shownPath fs p), value⟩)
  else
    .ok none

/-- What the files set, the first file last; or all files that cannot be used. -/
def readSources (fs : FileSystem) : List Path → Except (List BadFile) Stack
  | [] => .ok []
  | p :: ps =>
    match readSource fs p, readSources fs ps with
    | .ok found, .ok stack => .ok (stack ++ found.toList)
    | .ok _, .error bad => .error bad
    | .error e, .ok _ => .error [e]
    | .error e, .error bad => .error (e :: bad)

/-- The settings of the sources above the files. -/
def resolve (above : Stack) (files : Except (List BadFile) Stack) : Except SettingsError Settings :=
  match files with
  | .error bad => .error (.badFiles bad)
  | .ok stack =>
    match ofStack (above ++ stack) with
    | .error m => .error (.mismatch m)
    | .ok settings => .ok settings

def projectFile (root : Path) : Path :=
  root.join fileName

/-- The settings from the project's own file. -/
def loadProject (fs : FileSystem) (root : Path) : Except SettingsError Settings :=
  resolve [] (readSources fs [projectFile root])

/-- The settings from all sources. A file that the user names has to exist. -/
def load (fs : FileSystem) (env : Environment) (root : Path) (named : Option Path) :
    Except SettingsError Settings :=
  let above := [⟨.environment, env.settings⟩]
  match named with
  | none => resolve above (readSources fs [projectFile root])
  | some path =>
    if fs.exists? path then resolve above (readSources fs [projectFile root, path])
    else .error (.missingFile path)

end Settings
end CrudForge
