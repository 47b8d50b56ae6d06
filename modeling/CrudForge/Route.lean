import CrudForge.FileSystem.Store
import CrudForge.Naming.Basic

/-!
# Routes

Every resource is registered by one line, which is only ever appended. A second run for the same
resource appends the line again.
-/

namespace CrudForge

/-- The line that registers a resource, with the line feed before it. -/
def routeLine (resource : String) : String :=
  "\nRoute::resource('" ++ Naming.plural resource ++ "', " ++ Naming.controller resource ++
    "::class);"

/-- Where route lines go: a file, or a list. -/
inductive RouteSink
  | file (path : Path)
  | memory (lines : List String)

namespace RouteSink

def fresh : RouteSink :=
  memory []

def describe : RouteSink → String
  | file path => path.text
  | memory _ => "in-memory route sink"

/-- The lines that the sink itself holds. -/
def lines : RouteSink → List String
  | file _ => []
  | memory lines => lines

/-- Appends a line as it is. -/
def append (sink : RouteSink) (line : String) (fs : FileSystem) :
    Except WriteError RouteSink × FileSystem :=
  match sink with
  | memory lines => (.ok (memory (lines ++ [line])), fs)
  | file path =>
    match fs.extendText path line with
    | (.ok (), fs') => (.ok (file path), fs')
    | (.error e, fs') => (.error e, fs')

end RouteSink
end CrudForge
