import CrudForge.Diff.Lines
import CrudForge.FileSystem.Store
import CrudForge.Settings.Load
import CrudForge.Stub.Source

/-!
# Managing stubs

The commands that copy the built-in stubs into a project, list the stubs of a project, and compare
one with the built-in one.

## Main definitions

* `Stubs.publish` — copies the built-in stubs that a project lacks, or all.
* `Stubs.survey` — which stubs of a project generation uses, and which it does not.
* `Stubs.compare` — a stub of a project beside the built-in one.
-/

namespace CrudForge.Stubs

inductive Handling
  | kept
  | written
  deriving DecidableEq

/-- How far copying went, why it stopped if it did, and what it leaves. -/
structure Publication where
  done : List (String × Handling)
  outcome : Except WriteError Unit
  files : FileSystem

namespace Publication

def count (p : Publication) : Nat :=
  (p.done.filter (·.2 = .written)).length

end Publication

/-- Copies the built-in stubs of these names in order. Those that exist are kept without `force`. -/
def publishNames (stubs : StubDirectory) (force : Bool) (fs : FileSystem) :
    List String → Publication
  | [] => ⟨[], .ok (), fs⟩
  | name :: names =>
    match Stub.builtin? name with
    | none => publishNames stubs force fs names
    | some content =>
      if fs.exists? (stubs.file name) && !force then
        let p := publishNames stubs force fs names
        { p with done := (name, .kept) :: p.done }
      else
        match fs.storeText (stubs.file name) content with
        | (.error e, fs') => ⟨[], .error e, fs'⟩
        | (.ok (), fs') =>
          let p := publishNames stubs force fs' names
          { p with done := (name, .written) :: p.done }

def publish (stubs : StubDirectory) (force : Bool) (fs : FileSystem) : Publication :=
  publishNames stubs force fs stubNames

/-- The text with slashes for backslashes. -/
def withSlashes (s : String) : String :=
  String.ofList (s.toList.map fun c => if c = '\\' then '/' else c)

def dropEnding? (ending s : String) : Option String :=
  if ending.toList.isSuffixOf s.toList then
    some (String.ofList (s.toList.take (s.length - ending.length)))
  else
    none

def namesIn (stubs : StubDirectory) (fs : FileSystem) : List String :=
  (fs.filesBelow stubs.directory).filterMap fun path =>
    dropEnding? ("." ++ stubs.extension) (withSlashes path.text)

/-- The stubs of generation, each with whether the project has its own, and other stubs of the
project. -/
structure Survey where
  stubs : List (String × Bool)
  others : List String

namespace Survey

def customised (s : Survey) : Nat :=
  (s.stubs.filter (·.2)).length

def builtin (s : Survey) : Nat :=
  s.stubs.length - s.customised

end Survey

def survey (stubs : StubDirectory) (fs : FileSystem) : Survey :=
  let found := namesIn stubs fs
  { stubs := stubNames.map fun name => (name, found.contains name)
    others := (found.filter fun name => !stubNames.contains name).mergeSort }

inductive Comparison
  | unknown
  | notCustomised
  | unreadable (path : Path) (e : AccessError)
  | compared (edits : List (Diff.Edit String))

def compare (stubs : StubDirectory) (fs : FileSystem) (name : String) : Comparison :=
  match Stub.builtin? name with
  | none => .unknown
  | some builtin =>
    if fs.exists? (stubs.file name) then
      match fs.readText (stubs.file name) with
      | .error e => .unreadable (stubs.file name) e
      | .ok custom => .compared (Diff.ofTexts builtin custom)
    else
      .notCustomised

end CrudForge.Stubs
