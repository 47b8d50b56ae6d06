import CrudForge.Naming.Basic
import CrudForge.Settings.Basic

/-!
# Layout of a project

Where the files of a resource stand in a project.
-/

namespace CrudForge

/-- The directories of a project, behind its root, and the extensions of its files. -/
structure Layout where
  root : Path
  models : Path
  controllers : Path
  views : Path
  routes : Path
  sourceExtension : String
  viewExtension : String

namespace Layout

def of (root : Path) (settings : Settings) : Layout where
  root
  models := root.join settings.directories.models
  controllers := root.join settings.directories.controllers
  views := root.join settings.directories.views
  routes := root.join settings.directories.routes
  sourceExtension := settings.extensions.source
  viewExtension := settings.extensions.view

def modelFile (layout : Layout) (resource : String) : Path :=
  layout.models.join ⟨resource ++ "." ++ layout.sourceExtension⟩

def controllerFile (layout : Layout) (resource : String) : Path :=
  layout.controllers.join ⟨Naming.controller resource ++ "." ++ layout.sourceExtension⟩

def viewDirectory (layout : Layout) (resource : String) : Path :=
  layout.views.join ⟨Naming.plural resource⟩

def viewFile (layout : Layout) (resource view : String) : Path :=
  (layout.viewDirectory resource).join ⟨view ++ "." ++ layout.viewExtension⟩

/-- The file of the routes, which all resources share. -/
def routeFile (layout : Layout) : Path :=
  layout.routes.join ⟨"web." ++ layout.sourceExtension⟩

/-- A path as it is shown: from the root on, if it lies there. -/
def relative (layout : Layout) (p : Path) : Path :=
  p.relativeTo layout.root

end Layout
end CrudForge
