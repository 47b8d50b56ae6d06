/-!
# The middle of a shortest edit script

Two searches walk through the grid of the two lists, one from the start and one from the end, where
dropping is a step to the right, adding a step down, and keeping a diagonal step that costs nothing.
Where they meet, the lists are cut in two.

A diagonal is the number of the columns less that of the rows. After `d` steps that cost, a search
stands on the diagonals `d`, `d - 2`, ..., `-d`, and its frontier lists the columns in this order.

## Main definitions

* `Diff.advance` — a frontier after one more step.
* `Diff.middle?` — the column and row where the lists are cut.
-/

namespace CrudForge.Diff

variable {α : Type} [DecidableEq α]

/-- The number of equal elements from the two positions on, at most `fuel`. -/
def agreement (old new : Array α) (x y : Nat) : Nat → Nat
  | 0 => 0
  | fuel + 1 =>
    if h : x < old.size ∧ y < new.size then
      if old[x] = new[y] then agreement old new (x + 1) (y + 1) fuel + 1 else 0
    else
      0

/-- A way along a diagonal, from one column to another. -/
structure Slide where
  start : Nat
  stop : Nat

/-- As far along the diagonal as the lists agree. -/
def slide (old new : Array α) (diagonal : Int) (x : Nat) : Slide :=
  let y := (x : Int) - diagonal
  if y < 0 then ⟨x, x⟩ else ⟨x, x + agreement old new x y.toNat old.size⟩

/-- Where the diagonals between those of a frontier are entered: from the right if that is further,
else from the left with one more column. The last is entered from above. -/
def entriesBetween : List Nat → List Nat
  | [] => []
  | [x] => [x]
  | x :: y :: rest => (if y < x then x else y + 1) :: entriesBetween (y :: rest)

/-- Where the next step enters its diagonals. -/
def entries : List Nat → List Nat
  | [] => [0]
  | x :: rest => (x + 1) :: entriesBetween (x :: rest)

def diagonals (d : Nat) : List Int :=
  (List.range (d + 1)).map fun (i : Nat) => (d : Int) - 2 * (i : Int)

/-- The ways along the diagonals in step `d`, behind the frontier of the step before. -/
def advance (old new : Array α) (d : Nat) (frontier : List Nat) : List (Int × Slide) :=
  ((diagonals d).zip (entries frontier)).map fun (diagonal, x) =>
    (diagonal, slide old new diagonal x)

/-- The column of a frontier of `count` diagonals on one of them. -/
def columnOn? (count : Nat) (frontier : List Nat) (diagonal : Int) : Option Nat :=
  let index := ((count : Int) - 1 - diagonal) / 2
  if 0 ≤ index && diagonal.natAbs < count then frontier[index.toNat]? else none

/-- The first of the ways that meets the frontier of the other search. -/
def meeting? (columns : Nat) (delta : Int) (count : Nat) (other : List Nat)
    (ways : List (Int × Slide)) : Option (Int × Slide) :=
  ways.find? fun (diagonal, way) =>
    match columnOn? count other (delta - diagonal) with
    | some x => columns ≤ way.stop + x
    | none => false

/-- The search, from step `d` on. Lists whose lengths differ by an odd number are cut where the
search from the start meets the other, and else the other way round. -/
def middleFrom? (old new : Array α) (oldBack newBack : Array α) (forward backward : List Nat)
    (d : Nat) : Nat → Option (Nat × Nat)
  | 0 => none
  | fuel + 1 =>
    let n := old.size
    let m := new.size
    let delta := (n : Int) - m
    let isOdd := delta % 2 = 1
    let ways := advance old new d forward
    match if isOdd then meeting? n delta d backward ways else none with
    | some (diagonal, way) => some (way.start, ((way.start : Int) - diagonal).toNat)
    | none =>
      let forward := ways.map (·.2.stop)
      let waysBack := advance oldBack newBack d backward
      match if isOdd then none else meeting? n delta (d + 1) forward waysBack with
      | some (diagonal, way) => some (n - way.stop, m - ((way.stop : Int) - diagonal).toNat)
      | none => middleFrom? old new oldBack newBack forward (waysBack.map (·.2.stop)) (d + 1) fuel

/-- The column and the row where the lists are cut. -/
def middle? (old new : Array α) : Option (Nat × Nat) :=
  middleFrom? old new old.reverse new.reverse [] [] 0 ((old.size + new.size + 1) / 2 + 1)

end CrudForge.Diff
