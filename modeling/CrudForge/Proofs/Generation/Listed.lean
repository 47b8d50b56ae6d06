import CrudForge.Generation.Generator
import CrudForge.Proofs.Text.Trim

/-!
# Reading lists back

The model lists the names of its fields in quotes, with a comma and a space between each two. Names
without commas are read back from the list, each from an entry of its own.

## Main definitions

* `Text.entries` — what a text lists between commas.
* `Text.unquote?` — what an entry quotes.
* `listedNames` — the names that a text lists.
-/

namespace CrudForge

namespace Text

/-- The entries between the commas of `s`, without the blanks around them. The empty text has
none. -/
def entries (s : String) : List String :=
  if s = "" then [] else (cut ',' s).map trim

/-- What stands in `s` between a quote at the start and a quote at the end. -/
def unquote? (s : String) : Option String :=
  let inner := String.ofList s.toList.tail.dropLast
  if s = "'" ++ inner ++ "'" then some inner else none

section Quotes

variable {words : List String}

theorem unquote?_quote (s : String) : unquote? ("'" ++ s ++ "'") = some s := by
  have hinner : String.ofList ("'" ++ s ++ "'").toList.tail.dropLast = s := by simp
  simp only [unquote?, hinner, if_true]

/-- Quotes are not blank, so nothing between them is trimmed. -/
theorem isWord_quote (s : String) : IsWord ("'" ++ s ++ "'") := by
  have hquote : isBlank '\'' = false := by decide
  refine ⟨by simp, String.toList_inj.1 ?_⟩
  simp [trimChars, trimRight, hquote]

theorem join_ne_empty (hne : words ≠ []) (h : ∀ word ∈ words, IsWord word) (sep : String) :
    join sep words ≠ "" := by
  obtain ⟨word, rest, rfl⟩ := List.exists_cons_of_ne_nil hne
  have hword := (h word List.mem_cons_self).ne_empty
  cases rest with
  | nil => exact hword
  | cons next rest => simp [join, hword]

/-- The pieces of a list of words, with `pad` in front of all but the first. A list of nothing is
one empty piece. -/
def padded (pad : String) : List String → List String
  | [] => [""]
  | word :: rest => word :: rest.map (pad ++ ·)

/-- What stands behind the commas of a list belongs to the pieces when the list is cut. -/
theorem cut_join_comma {pad : String} (hpad : ',' ∉ pad.toList)
    (hcomma : ∀ word ∈ words, ',' ∉ word.toList) :
    cut ',' (join ("," ++ pad) words) = padded pad words := by
  cases words with
  | nil => rfl
  | cons word rest =>
    have hpieces : ∀ piece ∈ word :: rest.map (pad ++ ·), ',' ∉ piece.toList := by
      obtain ⟨hword, hrest⟩ := List.forall_mem_cons.1 hcomma
      refine List.forall_mem_cons.2 ⟨hword, List.forall_mem_map.2 fun next hnext => ?_⟩
      simpa [hpad] using hrest next hnext
    rw [join_append_pad]
    exact cut_join (List.cons_ne_nil _ _) hpieces

/-- Words without commas are the entries of their list, whatever blanks stand behind the commas. -/
theorem entries_join {pad : String} (hpad : isBlankText pad = true)
    (hwords : ∀ word ∈ words, IsWord word) (hcomma : ∀ word ∈ words, ',' ∉ word.toList) :
    entries (join ("," ++ pad) words) = words := by
  cases words with
  | nil => rfl
  | cons word rest =>
    have htrim : ∀ next ∈ rest, trim (pad ++ next) = next := fun next hnext =>
      (hwords next (List.mem_cons_of_mem _ hnext)).trim_padded
        ((padded_self next).append_left hpad)
    rw [entries, if_neg (join_ne_empty (List.cons_ne_nil _ _) hwords _),
      cut_join_comma (notMem_of_isBlankText hpad (by decide)) hcomma, padded, List.map_cons,
      (hwords word List.mem_cons_self).trim_eq, List.map_map]
    exact congrArg _ ((List.map_congr_left htrim).trans (List.map_id' rest))

end Quotes

end Text

/-- The names that `s` lists, where an entry without quotes gives none. -/
def listedNames (s : String) : List (Option String) :=
  (Text.entries s).map Text.unquote?

/-- The model lists the names of its fields, in their order. -/
theorem Generator.listedNames_fillable (g : Generator)
    (h : ∀ name ∈ g.fields.names, ',' ∉ name.toList) :
    listedNames g.fillable = g.fields.names.map some := by
  have hwords : ∀ word ∈ g.fields.names.map fun name => "'" ++ name ++ "'", Text.IsWord word :=
    List.forall_mem_map.2 fun name _ => Text.isWord_quote name
  have hcomma : ∀ word ∈ g.fields.names.map fun name => "'" ++ name ++ "'", ',' ∉ word.toList :=
    List.forall_mem_map.2 fun name hname => by simpa using h name hname
  have hsep : ", " = "," ++ " " := by decide
  rw [listedNames, fillable, hsep, Text.entries_join (by decide) hwords hcomma, List.map_map]
  exact List.map_congr_left fun name _ => Text.unquote?_quote name

end CrudForge
