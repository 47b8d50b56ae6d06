/-!
# Edit scripts

How one list becomes another: elements are kept, dropped or added, in order.

## Main definitions

* `Diff.Chunk` — some elements with one fate.
* `Diff.oldOf`, `Diff.newOf` — the two lists that a script relates.
* `Diff.Edit` — one element with its fate, as it is shown.
* `Diff.inOrder` — a script as it is shown: between two kept elements, what is dropped comes before
  what is added.
-/

namespace CrudForge.Diff

inductive Fate
  | keep
  | drop
  | add
  deriving DecidableEq

namespace Fate

/-- Whether an element with this fate is in the old list. -/
def isOld : Fate → Bool
  | add => false
  | _ => true

/-- Whether an element with this fate is in the new list. -/
def isNew : Fate → Bool
  | drop => false
  | _ => true

end Fate

variable {α : Type}

/-- Some elements in a row with one fate. -/
structure Chunk (α : Type) where
  fate : Fate
  elements : List α

structure Edit (α : Type) where
  fate : Fate
  element : α

namespace Chunk

def unlessEmpty (fate : Fate) (elements : List α) : List (Chunk α) :=
  if elements.isEmpty then [] else [⟨fate, elements⟩]

def old (c : Chunk α) : List α :=
  if c.fate.isOld then c.elements else []

def new (c : Chunk α) : List α :=
  if c.fate.isNew then c.elements else []

end Chunk

def oldOf (script : List (Chunk α)) : List α :=
  script.flatMap Chunk.old

def newOf (script : List (Chunk α)) : List α :=
  script.flatMap Chunk.new

def oldElements (edits : List (Edit α)) : List α :=
  (edits.filter (·.fate.isOld)).map (·.element)

def newElements (edits : List (Edit α)) : List α :=
  (edits.filter (·.fate.isNew)).map (·.element)

/-- The edits of a script behind some that are dropped and some that are added. -/
def inOrderFrom (dropped added : List α) : List (Chunk α) → List (Edit α)
  | [] => dropped.map (⟨.drop, ·⟩) ++ added.map (⟨.add, ·⟩)
  | ⟨.keep, elements⟩ :: script =>
    dropped.map (⟨.drop, ·⟩) ++ added.map (⟨.add, ·⟩) ++ elements.map (⟨.keep, ·⟩) ++
      inOrderFrom [] [] script
  | ⟨.drop, elements⟩ :: script => inOrderFrom (dropped ++ elements) added script
  | ⟨.add, elements⟩ :: script => inOrderFrom dropped (added ++ elements) script

/-- The edits of a script as they are shown. -/
def inOrder (script : List (Chunk α)) : List (Edit α) :=
  inOrderFrom [] [] script

@[simp] theorem oldOf_append (s t : List (Chunk α)) : oldOf (s ++ t) = oldOf s ++ oldOf t := by
  simp [oldOf]

@[simp] theorem newOf_append (s t : List (Chunk α)) : newOf (s ++ t) = newOf s ++ newOf t := by
  simp [newOf]

@[simp] theorem oldOf_unlessEmpty (fate : Fate) (elements : List α) :
    oldOf (Chunk.unlessEmpty fate elements) = if fate.isOld then elements else [] := by
  cases elements <;> simp [oldOf, Chunk.unlessEmpty, Chunk.old]

@[simp] theorem newOf_unlessEmpty (fate : Fate) (elements : List α) :
    newOf (Chunk.unlessEmpty fate elements) = if fate.isNew then elements else [] := by
  cases elements <;> simp [newOf, Chunk.unlessEmpty, Chunk.new]

end CrudForge.Diff
