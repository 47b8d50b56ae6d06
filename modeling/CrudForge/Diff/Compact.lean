import CrudForge.Diff.Script

/-!
# Compacting edit scripts

Chunks of a script are moved towards the start and then towards the end, as far as the lists stay
the same, so that chunks of one fate come together.

## Main definitions

* `Diff.Focus` — a script with one chunk in view.
* `Diff.raise`, `Diff.lower` — moves that chunk as far as it goes.
* `Diff.compact` — moves first the dropped chunks and then the added ones.
-/

namespace CrudForge.Diff

variable {α : Type}

/-- A script with one chunk in view. The chunks before it are in reverse. -/
structure Focus (α : Type) where
  before : List (Chunk α)
  chunk : Chunk α
  behind : List (Chunk α)

def Focus.script (f : Focus α) : List (Chunk α) :=
  f.before.reverse ++ f.chunk :: f.behind

/-- The number of chunks and elements. -/
def weight (script : List (Chunk α)) : Nat :=
  script.foldr (fun c n => c.elements.length + 1 + n) 0

def keepInFront (a : α) : List (Chunk α) → List (Chunk α)
  | ⟨.keep, elements⟩ :: script => ⟨.keep, a :: elements⟩ :: script
  | script => ⟨.keep, [a]⟩ :: script

/-- Puts a kept element at the end of reversed chunks. -/
def keepAtEnd (a : α) : List (Chunk α) → List (Chunk α)
  | ⟨.keep, elements⟩ :: script => ⟨.keep, elements ++ [a]⟩ :: script
  | script => ⟨.keep, [a]⟩ :: script

variable [DecidableEq α]

/-- Moves the chunk in view towards the start. An added chunk passes a kept element that equals its
own last one; added and dropped chunks pass each other; chunks of one fate become one. -/
def raise (f : Focus α) : Focus α :=
  match f with
  | ⟨[], _, _⟩ => f
  | ⟨⟨.keep, elements⟩ :: before, chunk, behind⟩ =>
    match _he : elements.getLast?, chunk.elements.getLast? with
    | none, _ => raise ⟨before, chunk, behind⟩
    | some a, some b =>
      if chunk.fate = .add && a = b then
        raise ⟨⟨.keep, elements.dropLast⟩ :: before, ⟨.add, b :: chunk.elements.dropLast⟩,
          keepInFront a behind⟩
      else f
    | some _, none => f
  | ⟨other :: before, chunk, behind⟩ =>
    if other.fate = chunk.fate then
      raise ⟨before, ⟨chunk.fate, other.elements ++ chunk.elements⟩, behind⟩
    else if chunk.fate = .keep then f
    else raise ⟨before, chunk, other :: behind⟩
termination_by weight f.before
decreasing_by
  · simp [weight]
  · have : elements ≠ [] := by rintro rfl; simp at _he
    have := List.length_pos_iff.2 this
    simp [weight]; omega
  · simp [weight]
  · simp [weight]

/-- Moves the chunk in view towards the end. An added chunk passes a kept element that equals its
own first one; added and dropped chunks pass each other; chunks of one fate become one. -/
def lower (f : Focus α) : Focus α :=
  match f with
  | ⟨_, _, []⟩ => f
  | ⟨before, chunk, ⟨.keep, []⟩ :: behind⟩ => lower ⟨before, chunk, behind⟩
  | ⟨before, chunk, ⟨.keep, a :: elements⟩ :: behind⟩ =>
    match chunk.elements with
    | [] => f
    | b :: added =>
      if chunk.fate = .add && a = b then
        lower ⟨keepAtEnd a before, ⟨.add, added ++ [b]⟩, ⟨.keep, elements⟩ :: behind⟩
      else f
  | ⟨before, chunk, other :: behind⟩ =>
    if other.fate = chunk.fate then
      lower ⟨before, ⟨chunk.fate, chunk.elements ++ other.elements⟩, behind⟩
    else if chunk.fate = .keep then f
    else lower ⟨other :: before, chunk, behind⟩
termination_by weight f.behind
decreasing_by all_goals simp [weight]

/-- Moves the chunks of one fate, one after the other; `before` holds those behind which the next
one stands, in reverse. Stops after `fuel` chunks. -/
def compactFate (fate : Fate) : Nat → List (Chunk α) → List (Chunk α) → List (Chunk α)
  | 0, before, script => before.reverse ++ script
  | _ + 1, before, [] => before.reverse
  | fuel + 1, before, chunk :: script =>
    if chunk.fate = fate then
      let f := lower (raise ⟨before, chunk, script⟩)
      compactFate fate fuel (f.chunk :: f.before) f.behind
    else
      compactFate fate fuel (chunk :: before) script

/-- Moves the dropped chunks and then the added ones. A move never ends before the place where it
began, so every chunk is met once. -/
def compact (script : List (Chunk α)) : List (Chunk α) :=
  let dropped := compactFate .drop (weight script + 1) [] script
  compactFate .add (weight dropped + 1) [] dropped

end CrudForge.Diff
