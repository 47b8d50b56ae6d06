import CrudForge.Text.Split

/-!
# Paths

A path is a text. Joining works on the text and simplifies nothing; comparing works on components,
which leave out empty parts and the dot inside a path.

## Main definitions

* `Path.components` — what a path names, part by part.
* `Path.join` — a path behind a directory; an absolute path stands for itself.
* `Path.parent?` — the path without its last component.
* `Path.relativeTo` — the path as seen from a base, where the base's components come first.
-/

namespace CrudForge

/-- A path as it is written. -/
structure Path where
  text : String
  deriving DecidableEq

/-- One component of a path. The dot counts only at the start. -/
inductive Component
  | root
  | here
  | up
  | name (text : String)
  deriving DecidableEq

namespace Path

def segments (p : Path) : List String :=
  Text.cut '/' p.text

/-- An absolute path starts with a slash. -/
def isAbsolute (p : Path) : Bool :=
  p.text.toList.head? = some '/'

def endsInSlash (p : Path) : Bool :=
  p.text.toList.getLast? = some '/'

/-- Empty parts and dots name nothing inside a path. -/
def isIdle (segment : String) : Bool :=
  segment = "" || segment = "."

def innerComponent? (segment : String) : Option Component :=
  if isIdle segment then none
  else if segment = ".." then some .up
  else some (.name segment)

def components (p : Path) : List Component :=
  match p.segments with
  | [] => []
  | [""] => []
  | "" :: inner => .root :: inner.filterMap innerComponent?
  | "." :: inner => .here :: inner.filterMap innerComponent?
  | segments => segments.filterMap innerComponent?

def join (base p : Path) : Path :=
  if p.isAbsolute then p
  else if base.text = "" || base.endsInSlash then ⟨base.text ++ p.text⟩
  else ⟨base.text ++ "/" ++ p.text⟩

def dropIdleEnd (segments : List String) : List String :=
  (segments.reverse.dropWhile isIdle).reverse

/-- The path of these parts; the root if the only part is empty. -/
def ofSpine (segments : List String) : Path :=
  if segments = [""] then ⟨"/"⟩ else ⟨Text.join "/" segments⟩

/-- The path without the last component, unless it has none or is the root. -/
def parent? (p : Path) : Option Path :=
  match p.segments with
  | [] => none
  | first :: inner =>
    let kept := dropIdleEnd inner
    if kept.isEmpty then
      if first = "" then none else some ⟨""⟩
    else
      some (ofSpine (first :: dropIdleEnd kept.dropLast))

/-- The parts behind the first `count` components. -/
def dropComponents : Nat → List String → List String
  | 0, segments => segments
  | count + 1, segments => dropComponents count ((segments.dropWhile isIdle).drop 1)

/-- The text of `p` behind its first `count` components, without idle parts at its ends. The root
or dot at the start of a path is a component. -/
def remainder (count : Nat) (p : Path) : Path :=
  match count, p.segments with
  | _, [] => ⟨""⟩
  | 0, first :: inner =>
    if p.text = "" then ⟨""⟩ else ofSpine (first :: dropIdleEnd inner)
  | count + 1, _ :: inner =>
    ⟨Text.join "/" (dropIdleEnd ((dropComponents count inner).dropWhile isIdle))⟩

/-- `p` as seen from `base`, if the components of `base` are the first of `p`; else `p`. -/
def relativeTo (p base : Path) : Path :=
  if base.components.isPrefixOf p.components then p.remainder base.components.length else p

/-- The path and its parents, up to `fuel` of them. -/
def ancestorsUpTo : Nat → Path → List Path
  | 0, _ => []
  | fuel + 1, p =>
    match p.parent? with
    | none => [p]
    | some parent => p :: ancestorsUpTo fuel parent

/-- The path, its parent, and so on. A parent is shorter than its child, so none is missing. -/
def ancestors (p : Path) : List Path :=
  ancestorsUpTo (p.text.length + 1) p

theorem join_of_isAbsolute {base p : Path} (h : p.isAbsolute = true) : base.join p = p := by
  simp [join, h]

theorem relativeTo_of_not_prefix {p base : Path}
    (h : base.components.isPrefixOf p.components = false) : p.relativeTo base = p := by
  simp [relativeTo, h]

end Path
end CrudForge
