/-!
# Cutting and joining texts

## Main definitions

* `Text.cut` — the pieces between the occurrences of a separator.
* `Text.cutFirst?` — the two sides of the first occurrence.
* `Text.join` — pieces with a separator between each two.

Cutting and joining undo each other: `join_cut`.
-/

namespace CrudForge.Text

/-- The pieces of `cs` between the occurrences of `sep`; one more than there are occurrences. -/
def cutChars (sep : Char) : List Char → List (List Char)
  | [] => [[]]
  | c :: cs =>
    match cutChars sep cs with
    | [] => [[c]]
    | piece :: pieces => if c = sep then [] :: piece :: pieces else (c :: piece) :: pieces

/-- What stands before and behind the first `sep`, if there is one. -/
def cutFirstChars? (sep : Char) (cs : List Char) : Option (List Char × List Char) :=
  match cs.dropWhile (· ≠ sep) with
  | [] => none
  | _ :: behind => some (cs.takeWhile (· ≠ sep), behind)

def cut (sep : Char) (s : String) : List String :=
  (cutChars sep s.toList).map String.ofList

def cutFirst? (sep : Char) (s : String) : Option (String × String) :=
  (cutFirstChars? sep s.toList).map fun (before, behind) =>
    (String.ofList before, String.ofList behind)

/-- The texts one after the other, with `sep` between each two. -/
def join (sep : String) : List String → String
  | [] => ""
  | [s] => s
  | s :: t :: rest => s ++ sep ++ join sep (t :: rest)

def concat (texts : List String) : String :=
  texts.foldr (· ++ ·) ""

theorem cutChars_ne_nil (sep : Char) (cs : List Char) : cutChars sep cs ≠ [] := by
  cases cs with
  | nil => simp [cutChars]
  | cons c cs => unfold cutChars; split <;> (try split) <;> simp

@[simp] theorem join_singleton (sep s : String) : join sep [s] = s := rfl

theorem join_cons (sep s : String) {rest : List String} (h : rest ≠ []) :
    join sep (s :: rest) = s ++ sep ++ join sep rest := by
  cases rest with
  | nil => exact absurd rfl h
  | cons t rest => rfl

/-- Joining the pieces with the separator gives the text back. -/
theorem join_cut (sep : Char) (s : String) : join (String.singleton sep) (cut sep s) = s := by
  have main : ∀ cs : List Char,
      (join (String.singleton sep) ((cutChars sep cs).map String.ofList)).toList = cs := by
    intro cs
    induction cs with
    | nil => simp [cutChars]
    | cons c cs ih =>
      have hne := cutChars_ne_nil sep cs
      unfold cutChars
      split
      · contradiction
      · rename_i piece pieces hcut
        rw [hcut] at ih
        split
        · rename_i hc
          simp only [List.map_cons] at ih ⊢
          rw [join_cons _ _ (by simp)]
          simp [ih, hc]
        · cases pieces with
          | nil => simpa using ih
          | cons p ps =>
            simp only [List.map_cons] at ih ⊢
            rw [join_cons _ _ (by simp)] at ih ⊢
            simpa using ih
  exact String.toList_inj.1 (main s.toList)

end CrudForge.Text
