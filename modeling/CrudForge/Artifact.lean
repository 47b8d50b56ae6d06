import CrudForge.Path

/-!
# Artifacts

The files that are generated for a resource: one of each of five kinds.
-/

namespace CrudForge

inductive ArtifactKind
  | model
  | controller
  | listView
  | createView
  | editView
  deriving DecidableEq

namespace ArtifactKind

/-- All kinds, in the order of generation. -/
def all : List ArtifactKind :=
  [model, controller, listView, createView, editView]

def stubName : ArtifactKind → String
  | model => "Model"
  | controller => "Controller"
  | listView => "views/index"
  | createView => "views/create"
  | editView => "views/edit"

def describe : ArtifactKind → String
  | model => "model"
  | controller => "controller"
  | listView => "list view"
  | createView => "create view"
  | editView => "edit view"

def ofStubName? (name : String) : Option ArtifactKind :=
  all.find? (·.stubName = name)

@[simp] theorem ofStubName?_stubName (kind : ArtifactKind) :
    ofStubName? kind.stubName = some kind := by
  cases kind <;> decide

end ArtifactKind

def stubNames : List String :=
  ArtifactKind.all.map (·.stubName)

structure Artifact where
  kind : ArtifactKind
  path : Path
  content : String
  deriving DecidableEq

end CrudForge
