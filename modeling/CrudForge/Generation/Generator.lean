import CrudForge.Artifact
import CrudForge.Layout
import CrudForge.Markup
import CrudForge.Route
import CrudForge.Stub.Source

/-!
# Generation

All files of a resource are first made in memory and then written, one after the other, with the
route line last. A missing stub therefore stops the run before anything is written.

## Main definitions

* `Generator` — a resource, its fields, and where stubs and files are.
* `Generator.render` — the artifacts.
* `Generator.commit` — the file system with the artifacts written and the route registered.
* `Generator.generate` — one after the other.
-/

namespace CrudForge

structure Generator where
  resource : ResourceName
  fields : FieldList
  layout : Layout
  stubs : StubSource

/-- What a run wrote, and where the route line went. -/
structure Report where
  written : List (ArtifactKind × Path)
  routeLine : String
  routeTarget : String

inductive StopCause
  | stub (e : StubError)
  | write (e : WriteError)
  deriving DecidableEq

/-- A run that stopped, with what it had written by then. -/
structure Stop where
  written : List (ArtifactKind × Path)
  cause : StopCause
  deriving DecidableEq

def Stop.message (stop : Stop) : String :=
  "generation stopped after writing " ++ toString stop.written.length ++ " files"

/-- Writes the artifacts in order. On failure gives those written before. -/
def writeArtifacts (fs : FileSystem) :
    List Artifact → Except (List (ArtifactKind × Path) × WriteError) Unit × FileSystem
  | [] => (.ok (), fs)
  | artifact :: rest =>
    match fs.storeText artifact.path artifact.content with
    | (.error e, fs') => (.error ([], e), fs')
    | (.ok (), fs') =>
      match writeArtifacts fs' rest with
      | (.ok (), fs'') => (.ok (), fs'')
      | (.error (written, e), fs'') => (.error ((artifact.kind, artifact.path) :: written, e), fs'')

namespace Generator

/-- The names of the fields, each in quotes. -/
def fillable (g : Generator) : String :=
  Text.join ", " (g.fields.names.map fun name => "'" ++ name ++ "'")

/-- One entry for every field that has rules. -/
def ruleEntries (g : Generator) : List String :=
  (g.fields.fields.filter fun field => !field.rules.isEmpty).map fun field =>
    "'" ++ field.name ++ "' => '" ++ field.ruleText ++ "'"

/-- The rules of the fields, an entry on each line. -/
def validationRules (g : Generator) : String :=
  Text.join ",\n            " g.ruleEntries

def routeLine (g : Generator) : String :=
  CrudForge.routeLine g.resource.text

/-- The values that every stub can use. -/
def nameValues (g : Generator) : Values :=
  ((Values.empty.set "modelName" g.resource.text).set "modelNamePluralLowerCase"
    (Naming.plural g.resource.text)).set "modelNameSingularLowerCase"
    (Naming.singular g.resource.text)

def values (g : Generator) : ArtifactKind → Values
  | .model => g.nameValues.set "fillable" g.fillable
  | .controller => g.nameValues.set "validationRules" g.validationRules
  | .listView =>
    (g.nameValues.set "fields" (Markup.fragment g.fields .list)).set "rowFields"
      (Markup.cells g.fields)
  | .createView => g.nameValues.set "fields" (Markup.fragment g.fields .create)
  | .editView => g.nameValues.set "fields" (Markup.fragment g.fields .edit)

def path (g : Generator) : ArtifactKind → Path
  | .model => g.layout.modelFile g.resource.text
  | .controller => g.layout.controllerFile g.resource.text
  | .listView => g.layout.viewFile g.resource.text "index"
  | .createView => g.layout.viewFile g.resource.text "create"
  | .editView => g.layout.viewFile g.resource.text "edit"

def renderKind (g : Generator) (fs : FileSystem) (kind : ArtifactKind) :
    Except StubError Artifact :=
  match g.stubs.render fs kind.stubName (g.values kind) with
  | .error e => .error e
  | .ok content => .ok { kind, path := g.path kind, content }

/-- The artifacts of the kinds, up to the first stub that cannot be had. -/
def renderKinds (g : Generator) (fs : FileSystem) :
    List ArtifactKind → Except StubError (List Artifact)
  | [] => .ok []
  | kind :: kinds =>
    match g.renderKind fs kind with
    | .error e => .error e
    | .ok artifact =>
      match renderKinds g fs kinds with
      | .error e => .error e
      | .ok artifacts => .ok (artifact :: artifacts)

def render (g : Generator) (fs : FileSystem) : Except StubError (List Artifact) :=
  g.renderKinds fs ArtifactKind.all

/-- Writes the artifacts, then appends the route line. Files that exist are replaced. -/
def commit (g : Generator) (fs : FileSystem) (artifacts : List Artifact) (sink : RouteSink) :
    Except Stop (Report × RouteSink) × FileSystem :=
  match writeArtifacts fs artifacts with
  | (.error (written, e), fs') => (.error ⟨written, .write e⟩, fs')
  | (.ok (), fs') =>
    let written := artifacts.map fun artifact => (artifact.kind, artifact.path)
    match sink.append g.routeLine fs' with
    | (.error e, fs'') => (.error ⟨written, .write e⟩, fs'')
    | (.ok sink', fs'') =>
      (.ok ({ written, routeLine := g.routeLine, routeTarget := sink'.describe }, sink'), fs'')

def generate (g : Generator) (fs : FileSystem) (sink : RouteSink) :
    Except Stop (Report × RouteSink) × FileSystem :=
  match g.render fs with
  | .error e => (.error ⟨[], .stub e⟩, fs)
  | .ok artifacts => g.commit fs artifacts sink

end Generator
end CrudForge
