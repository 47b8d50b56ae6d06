import CrudForge.Naming.Plural
import CrudForge.Text.Case
import CrudForge.Text.Blank

/-!
# Names

The names that code generation derives from the name of a resource or a field.

## Main definitions

* `Naming.label` — a field name as a heading.
* `Naming.plural`, `Naming.singular` — a resource name in lower case.
* `Naming.controller` — the class that handles requests for a resource.
* `ResourceName` — a name that can be a class name.
-/

namespace CrudForge

namespace Naming

/-- Upper case for every character at the start of a word; `atStart` tells whether the first one
is. A word starts behind a blank. -/
def capitalise (atStart : Bool) : List Char → List Char
  | [] => []
  | c :: cs =>
    (if atStart then Text.upperOf c else [c]) ++ capitalise (Text.isBlank c) cs

/-- A field name as a heading: spaces for underscores, and every word with a capital. -/
def label (field : String) : String :=
  String.ofList (capitalise true (field.toList.map fun c => if c = '_' then ' ' else c))

def singular (resource : String) : String :=
  Text.lower resource

def plural (resource : String) : String :=
  pluralOf (Text.lower resource)

def controller (resource : String) : String :=
  resource ++ "Controller"

/-- A class name starts with an ASCII letter and has ASCII letters, digits and underscores. -/
def isClassName (name : String) : Bool :=
  match name.toList with
  | [] => false
  | c :: cs => c.isAlpha && (c :: cs).all fun d => d.isAlphanum || d = '_'

end Naming

/-- The name of a resource, which is also the name of its class and of its files. -/
structure ResourceName where
  text : String
  isClassName : Naming.isClassName text = true
  deriving DecidableEq

structure NameError where
  name : String
  deriving DecidableEq

def NameError.message (e : NameError) : String :=
  "invalid resource name '" ++ e.name ++
    "': must start with a letter and contain only letters, digits or '_'"

namespace ResourceName

def ofString (text : String) : Except NameError ResourceName :=
  if h : Naming.isClassName text = true then .ok ⟨text, h⟩ else .error ⟨text⟩

end ResourceName
end CrudForge
