import CrudForge.Command.Arguments
import CrudForge.Command.ScaffoldText
import CrudForge.Command.StubsText

/-!
# The program

What a run prints, its exit code, and what it leaves, all as a function of the files, the
environment, the arguments and the user's answer.

## Main definitions

* `Program.run` — a whole run.
* `Program.question?` — what is printed before the user is asked, if the user is.
* `Program.footprint` — the paths at which a run looks.
-/

namespace CrudForge

/-- What is logged without further wishes, for a number of `-v`. -/
def logFilter : Nat → String
  | 0 => "warn"
  | 1 => "info,crudgen_lib=info"
  | _ => "debug,crudgen_lib=trace"

namespace Program

def versionText : String :=
  "crudgen 0.1.0-alpha.1\n"

def usageText : String :=
  "Usage: crudgen [-v] [--root DIR] [--config FILE] COMMAND

Commands:
  crud NAME [--fields SPEC] [--strict] [--force] [--dry-run]
  stubs publish [--force]
  stubs list
  stubs diff NAME
"

structure Outcome where
  exitCode : Nat
  output : String
  errors : String
  files : FileSystem

def Outcome.of (output errors : String) (failure : Option Failure) (files : FileSystem) : Outcome :=
  match failure with
  | none => { exitCode := 0, output, errors, files }
  | some failure => { exitCode := 1, output, errors := errors ++ failure.report, files }

def failure? {ε : Type} (describe : ε → Failure) : Except ε Unit → Option Failure
  | .ok () => none
  | .error e => some (describe e)

def request (root : Path) (settingsFile : Option Path) (name fields : String)
    (strict force dryRun : Bool) : Scaffold.Request :=
  { name, fields, root, settingsFile, strict, force, dryRun }

/-- The root of the project: the working directory if none is given. -/
def rootOf (fs : FileSystem) (root : Option Path) : Path :=
  root.getD (Settings.pathOf fs.workingDirectory)

def endScaffold (glyphs : Glyphs) (run : Scaffold.Run) : Outcome :=
  let messages := run.notices.map (·.message glyphs)
  .of (Text.concat (messages.map (·.outputText))) (Text.concat (messages.map (·.errorText)))
    (failure? Scaffold.Fault.failure run.outcome) run.files

/-- A whole run. A mistake in usage has the exit code 2. -/
def run (fs : FileSystem) (env : Environment) (arguments : List String)
    (answer : Scaffold.Answer) : Outcome :=
  match Invocation.ofArguments? arguments with
  | none => { exitCode := 2, output := "", errors := usageText, files := fs }
  | some .help => .of usageText "" none fs
  | some .version => .of versionText "" none fs
  | some (.run _ root settingsFile (.scaffold name fields strict force dryRun)) =>
    endScaffold (.ofEnvironment env)
      (Scaffold.run fs env (request (rootOf fs root) settingsFile name fields strict force dryRun)
        answer)
  | some (.run _ root settingsFile (.stubs request)) =>
    let run := Stubs.run fs env (rootOf fs root) settingsFile request
    .of run.output "" (failure? Stubs.Fault.failure run.outcome) run.files

/-- What is printed before the user is asked, if the user is. -/
def question? (fs : FileSystem) (env : Environment) (arguments : List String) : Option String :=
  match Invocation.ofArguments? arguments with
  | some (.run _ root settingsFile (.scaffold name fields strict force dryRun)) =>
    let run :=
      Scaffold.run fs env (request (rootOf fs root) settingsFile name fields strict force dryRun)
        .noTerminal
    match run.outcome with
    | .error .refused => some (endScaffold (.ofEnvironment env) run).output
    | _ => none
  | _ => none

/-- The paths at which a task looks in a project with these settings. -/
def taskFootprint (root : Path) (settings : Settings) (task : Task) : List Path :=
  let stubs := StubDirectory.of root settings
  let layout := Layout.of root settings
  let stubFiles := stubs.directory :: stubNames.map stubs.file
  match task with
  | .scaffold name _ _ _ _ =>
    stubFiles ++
      [layout.modelFile name, layout.controllerFile name, layout.viewFile name "index",
        layout.viewFile name "create", layout.viewFile name "edit", layout.routeFile]
  | .stubs _ => stubFiles

/-- The paths at which a run looks: those of the settings, and, once these can be read, those of
the task. -/
def footprint (fs : FileSystem) (env : Environment) (arguments : List String) : List Path :=
  match Invocation.ofArguments? arguments with
  | some (.run _ root settingsFile task) =>
    let root := rootOf fs root
    let files := Settings.projectFile root :: settingsFile.toList
    match Settings.load fs env root settingsFile with
    | .ok settings => files ++ taskFootprint root settings task
    | .error _ => files
  | _ => []

end Program
end CrudForge
