import CrudForge.Diff.Compact
import CrudForge.Diff.Middle
import CrudForge.Text.Lines

/-!
# Differences between lists and texts

## Main definitions

* `Diff.script` — a script between two lists.
* `Diff.edits` — the same as it is shown.
* `Diff.ofTexts` — the lines that one text keeps, drops and adds to become another.
* `Diff.shown` — an edited line, closed by a line feed if it is not closed itself.
-/

namespace CrudForge.Diff

variable {α : Type} [DecidableEq α]

/-- The longest common start of two lists. -/
def commonStart : List α → List α → List α
  | a :: as, b :: bs => if a = b then a :: commonStart as bs else []
  | _, _ => []

/-- Drops all of one list and adds all of the other. -/
def exchange (old new : List α) : List (Chunk α) :=
  Chunk.unlessEmpty .drop old ++ Chunk.unlessEmpty .add new

omit [DecidableEq α] in
@[simp] theorem oldOf_exchange (old new : List α) : oldOf (exchange old new) = old := by
  simp [exchange, Fate.isOld]

omit [DecidableEq α] in
@[simp] theorem newOf_exchange (old new : List α) : newOf (exchange old new) = new := by
  simp [exchange, Fate.isNew]

/-- A script: what is common at both ends is kept, and the rest is cut in two where a shortest
script has its middle. A list of `fuel` or more elements is exchanged as a whole at last. -/
def scriptUpTo : Nat → List α → List α → List (Chunk α)
  | 0, old, new => exchange old new
  | fuel + 1, old, new =>
    let start := commonStart old new
    let old := old.drop start.length
    let new := new.drop start.length
    let stop := (commonStart old.reverse new.reverse).reverse
    let old := old.take (old.length - stop.length)
    let new := new.take (new.length - stop.length)
    let core :=
      if old.isEmpty || new.isEmpty then exchange old new
      else
        match middle? old.toArray new.toArray with
        | none => exchange old new
        | some (x, y) =>
          scriptUpTo fuel (old.take x) (new.take y) ++ scriptUpTo fuel (old.drop x) (new.drop y)
    Chunk.unlessEmpty .keep start ++ core ++ Chunk.unlessEmpty .keep stop

/-- A script from one list to another. Every cut leaves shorter lists, so the fuel suffices. -/
def script (old new : List α) : List (Chunk α) :=
  compact (scriptUpTo (old.length + new.length + 1) old new)

def edits (old new : List α) : List (Edit α) :=
  inOrder (script old new)

def ofTexts (old new : String) : List (Edit String) :=
  edits (Text.lines old) (Text.lines new)

/-- A line as it is shown: every one ends the line that it is on. -/
def closed (line : String) : String :=
  if Text.isClosedLine line then line else line ++ "\n"

def Fate.sign : Fate → String
  | keep => " "
  | drop => "-"
  | add => "+"

def shown (edit : Edit String) : String :=
  edit.fate.sign ++ closed edit.element

end CrudForge.Diff
