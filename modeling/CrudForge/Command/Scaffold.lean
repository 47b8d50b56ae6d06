import CrudForge.Diff.Lines
import CrudForge.Generation.Generator
import CrudForge.Settings.Load

/-!
# Scaffolding a resource

The command that generates the files of a resource. Before anything is written it shows which files
exist and asks whether to replace them; a dry run only shows what would change.

## Main definitions

* `Scaffold.Request` — what the user asks for.
* `Scaffold.Answer` — what the user says about files that exist.
* `Scaffold.Notice` — what the command tells on its way.
* `Scaffold.run` — the notices, the outcome, and the file system afterwards.
-/

namespace CrudForge.Scaffold

structure Request where
  name : String
  fields : String
  root : Path
  settingsFile : Option Path
  strict : Bool
  force : Bool
  dryRun : Bool

/-- What comes of asking whether to replace files that exist. -/
inductive Answer
  | yes
  | no
  | noTerminal
  | failed
  deriving DecidableEq

/-- What would become of the file of an artifact. -/
inductive Standing
  | new (lines : Nat)
  | unchanged
  | replaced (edits : List (Diff.Edit String))

inductive Notice
  | start (name : String)
  | dryRun
  | standing (layout : Layout) (artifact : Artifact) (standing : Standing)
  | routeAppended (layout : Layout) (line : String)
  | warning (layout : Layout) (existing : List Artifact)
  | generated (layout : Layout) (report : Report)
  | stopped (layout : Layout) (written : List (ArtifactKind × Path)) (missing : List Artifact)
  | ready (name : String)

inductive Fault
  | settings (e : SettingsError)
  | fields (e : FieldError)
  | name (e : NameError)
  | stub (e : StubError)
  | unreadable (path : Path) (e : AccessError)
  | refused
  | noAnswer
  | declined
  | stopped (cause : StopCause)

/-- What a run tells, how it ends, and what it leaves. -/
structure Run where
  notices : List Notice
  outcome : Except Fault Unit
  files : FileSystem

/-- The policy of the request and the settings: either can be strict. -/
def policy (request : Request) (settings : Settings) : KindPolicy :=
  if request.strict || settings.behaviour.strictKinds then .strict else .permissive

/-- The stubs of the project, above the built-in ones if the settings allow. -/
def stubs (root : Path) (settings : Settings) : StubSource :=
  .layered (.of root settings) settings.behaviour.builtinFallback

def generator (fs : FileSystem) (env : Environment) (request : Request) :
    Except Fault Generator :=
  match Settings.load fs env request.root request.settingsFile with
  | .error e => .error (.settings e)
  | .ok settings =>
    match FieldList.parse (policy request settings) request.fields with
    | .error e => .error (.fields e)
    | .ok fields =>
      match ResourceName.ofString request.name with
      | .error e => .error (.name e)
      | .ok resource =>
        .ok
          { resource
            fields
            layout := .of request.root settings
            stubs := stubs request.root settings }

def prepare (fs : FileSystem) (env : Environment) (request : Request) :
    Except Fault (Generator × List Artifact) :=
  match generator fs env request with
  | .error e => .error e
  | .ok g =>
    match g.render fs with
    | .error e => .error (.stub e)
    | .ok artifacts => .ok (g, artifacts)

def standing (fs : FileSystem) (artifact : Artifact) : Except Fault Standing :=
  if fs.exists? artifact.path then
    match fs.readText artifact.path with
    | .error e => .error (.unreadable artifact.path e)
    | .ok current =>
      if current = artifact.content then .ok .unchanged
      else .ok (.replaced (Diff.ofTexts current artifact.content))
  else
    .ok (.new (Text.countLines artifact.content))

/-- What would become of the files, up to the first that cannot be read. -/
def preview (fs : FileSystem) (layout : Layout) :
    List Artifact → List Notice × Except Fault Unit
  | [] => ([], .ok ())
  | artifact :: rest =>
    match standing fs artifact with
    | .error e => ([], .error e)
    | .ok s =>
      let (notices, outcome) := preview fs layout rest
      (.standing layout artifact s :: notices, outcome)

def rehearse (fs : FileSystem) (g : Generator) (artifacts : List Artifact) :
    List Notice × Except Fault Unit :=
  match preview fs g.layout artifacts with
  | (notices, .error e) => (.dryRun :: notices, .error e)
  | (notices, .ok ()) => (.dryRun :: notices ++ [.routeAppended g.layout g.routeLine], .ok ())

def perform (fs : FileSystem) (g : Generator) (artifacts : List Artifact) : Run :=
  match g.commit fs artifacts (.file g.layout.routeFile) with
  | (.ok (report, _), fs') =>
    ⟨[.generated g.layout report, .ready g.resource.text], .ok (), fs'⟩
  | (.error stop, fs') =>
    ⟨[.stopped g.layout stop.written (artifacts.drop stop.written.length)],
      .error (.stopped stop.cause), fs'⟩

def existing (fs : FileSystem) (artifacts : List Artifact) : List Artifact :=
  artifacts.filter fun artifact => fs.exists? artifact.path

/-- Writes the artifacts if nothing has to be replaced, or the user wants it replaced. -/
def performIfAllowed (fs : FileSystem) (g : Generator) (artifacts : List Artifact)
    (force : Bool) (answer : Answer) : Run :=
  if force || (existing fs artifacts).isEmpty then perform fs g artifacts
  else
    let warning := Notice.warning g.layout (existing fs artifacts)
    match answer with
    | .yes =>
      let run := perform fs g artifacts
      { run with notices := warning :: run.notices }
    | .no => ⟨[warning], .error .declined, fs⟩
    | .noTerminal => ⟨[warning], .error .refused, fs⟩
    | .failed => ⟨[warning], .error .noAnswer, fs⟩

def run (fs : FileSystem) (env : Environment) (request : Request) (answer : Answer) : Run :=
  let start := Notice.start request.name
  match prepare fs env request with
  | .error e => ⟨[start], .error e, fs⟩
  | .ok (g, artifacts) =>
    if request.dryRun then
      let (notices, outcome) := rehearse fs g artifacts
      ⟨start :: notices, outcome, fs⟩
    else
      let run := performIfAllowed fs g artifacts request.force answer
      { run with notices := start :: run.notices }

end CrudForge.Scaffold
