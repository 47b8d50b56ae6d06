import CrudForge.FileSystem.Access
import CrudForge.Settings.Basic
import CrudForge.Stub.Builtin
import CrudForge.Stub.Template

/-!
# Where stubs come from

Stubs are found by name: among the built-in ones, in a directory, or in a directory with the
built-in ones for those that it lacks. A stub that is there but cannot be read is never replaced.
-/

namespace CrudForge

structure StubDirectory where
  directory : Path
  extension : String

def StubDirectory.of (root : Path) (settings : Settings) : StubDirectory where
  directory := root.join settings.directories.stubs
  extension := settings.extensions.stub

def StubDirectory.file (stubs : StubDirectory) (name : String) : Path :=
  stubs.directory.join ⟨name ++ "." ++ stubs.extension⟩

inductive StubFault
  | access (e : AccessError)
  | notBuiltin
  deriving DecidableEq

def StubFault.message : StubFault → String
  | access e => e.message
  | notBuiltin => "no built-in stub with this name"

structure StubError where
  name : String
  fault : StubFault
  deriving DecidableEq

def StubError.message (e : StubError) : String :=
  "stub '" ++ e.name ++ "' not found: " ++ e.fault.message

/-- A place to look for stubs. -/
inductive StubSource
  | builtin
  | directory (stubs : StubDirectory)
  | layered (stubs : StubDirectory) (fallback : Bool)

namespace StubSource

def loadBuiltin (name : String) : Except StubError String :=
  match Stub.builtin? name with
  | some text => .ok text
  | none => .error ⟨name, .notBuiltin⟩

def loadFrom (stubs : StubDirectory) (fs : FileSystem) (name : String) : Except StubError String :=
  match fs.readText (stubs.file name) with
  | .ok text => .ok text
  | .error e => .error ⟨name, .access e⟩

def load (source : StubSource) (fs : FileSystem) (name : String) : Except StubError String :=
  match source with
  | builtin => loadBuiltin name
  | directory stubs => loadFrom stubs fs name
  | layered stubs fallback =>
    match loadFrom stubs fs name with
    | .error ⟨_, .access .missing⟩ =>
      if fallback then loadBuiltin name else .error ⟨name, .access .missing⟩
    | loaded => loaded

def render (source : StubSource) (fs : FileSystem) (name : String) (values : Values) :
    Except StubError String :=
  (source.load fs name).map (Template.fill · values)

end StubSource
end CrudForge
