import CrudForge.Path

/-!
# Settings

Where generated files go, how they are called, and how strict generation is.
-/

namespace CrudForge

/-- Directories, as seen from the root of a project. -/
structure Directories where
  models : Path
  controllers : Path
  views : Path
  routes : Path
  stubs : Path
  deriving DecidableEq

/-- File name extensions, without the dot before them. -/
structure Extensions where
  source : String
  view : String
  stub : String
  deriving DecidableEq

/-- How generation behaves: whether custom kinds are refused, and whether a built-in stub stands in
for one that the project lacks. -/
structure Behaviour where
  strictKinds : Bool
  builtinFallback : Bool
  deriving DecidableEq

structure Settings where
  directories : Directories
  extensions : Extensions
  behaviour : Behaviour
  deriving DecidableEq

/-- The settings of a project that sets nothing. -/
def Settings.standard : Settings where
  directories :=
    { models := ⟨"app/Models"⟩
      controllers := ⟨"app/Http/Controllers"⟩
      views := ⟨"resources/views"⟩
      routes := ⟨"routes"⟩
      stubs := ⟨"resources/stubs"⟩ }
  extensions := { source := "php", view := "blade.php", stub := "stub" }
  behaviour := { strictKinds := false, builtinFallback := true }

end CrudForge
