import CrudForge.Proofs.Generation.Listed
import CrudForge.Proofs.Markup.Identity
import CrudForge.Proofs.Text.Lines
import Mathlib.Data.List.Nodup

/-!
# Columns and controls

The headings and cells of the list, the controls of both forms and the names that the model lists
are made of the fields independently of each other. Each of them is read back by its own form alone,
and all of them give the names of the fields in their order.

## Main definitions

* `Markup.cellName?` — the name in a cell.
* `Generator.Coherent` — everything made of the fields has the same names in the same order.
-/

namespace CrudForge

open Text

namespace Markup

/-- What every cell starts with. -/
def cellStart : List Char :=
  "<td>\x7b\x7b $item->".toList

/-- The name in the cell that stands on `line`. -/
def cellName? (line : String) : Option String :=
  let name := between cellStart ' ' line.toList
  if line = "<td>\x7b\x7b $item->" ++ name ++ " \x7d\x7d</td>\n" then some name else none

section Rows

variable {field : Field} {fields : FieldList}

theorem cell_eq (field : Field) :
    cell field = "<td>\x7b\x7b $item->" ++ field.name ++ " \x7d\x7d</td>\n" := by
  unfold cell echo
  exact String.toList_inj.1 (by simp)

theorem cellName?_cell (h : ' ' ∉ field.name.toList) :
    cellName? (cell field) = some field.name := by
  have hchars : (cell field).toList =
      cellStart ++ (field.name.toList ++ ' ' :: "\x7d\x7d</td>\n".toList) := by
    unfold cell echo cellStart
    simp
  have hread : between cellStart ' ' (cell field).toList = field.name := by
    rw [hchars, between_append h]
  simp only [cellName?, hread]
  exact if_pos (cell_eq field)

/-- What is made of the fields has a line for each of them, if it is a text without line breaks
between two tags. -/
theorem lines_rows {row text : Field → String} {front back : String}
    (hrow : ∀ field, row field = front ++ text field ++ back ++ "\n")
    (hfront : IsUnbroken front.toList) (hback : IsUnbroken back.toList)
    (htext : ∀ field ∈ fields.fields, IsUnbroken (text field).toList) :
    lines (concat (fields.fields.map row)) = fields.fields.map row := by
  refine lines_concat (List.forall_mem_map.2 fun field hfield => ?_)
  rw [hrow]
  exact isLine_tagged hfront (htext field hfield) hback

theorem lines_cells (h : ∀ field ∈ fields.fields, field.IsPlain) :
    lines (cells fields) = fields.fields.map cell := by
  have hrow (field : Field) :
      cell field = "<td>\x7b\x7b $item->" ++ field.name ++ " \x7d\x7d</td>" ++ "\n" := by
    rw [cell_eq]
    exact String.toList_inj.1 (by simp)
  exact lines_rows hrow (by decide) (by decide) fun field hfield =>
    ⟨Naming.notMem_of_isPlain (h field hfield).name (by decide) (by decide),
      Naming.notMem_of_isPlain (h field hfield).name (by decide) (by decide)⟩

theorem lines_headings (h : ∀ field ∈ fields.fields, field.IsPlain) :
    lines (fragment fields .list) = fields.fields.map heading := by
  have hrow (field : Field) :
      heading field = "<th>" ++ Naming.label field.name ++ "</th>" ++ "\n" := by
    unfold heading
    exact String.toList_inj.1 (by simp)
  exact lines_rows hrow (by decide) (by decide) fun field hfield =>
    ⟨Naming.notMem_label (h field hfield).name (by decide) (by decide),
      Naming.notMem_label (h field hfield).name (by decide) (by decide)⟩

theorem map_cellName?_cells (h : ∀ field ∈ fields.fields, field.IsPlain) :
    (lines (cells fields)).map cellName? = fields.names.map some := by
  rw [lines_cells h, FieldList.names, List.map_map, List.map_map]
  refine List.map_congr_left fun field hfield => cellName?_cell ?_
  exact Naming.notMem_of_isPlain (h field hfield).name (by decide) (by decide)

/-- In both forms the names of the fields are read, each in its place. -/
theorem identities_fragment (h : ∀ field ∈ fields.fields, field.IsPlain) {mode : ViewMode}
    (hmode : mode ≠ .list) : identities (fragment fields mode) = fields.names := by
  have hforms := identities_concat h mode
  cases mode with
  | list => exact absurd rfl hmode
  | create => exact hforms
  | edit => exact hforms

end Rows

end Markup

open Markup

/-- Everything that is made of the fields of `g` has their names, in their order. The headings of
the list stand above the cells, and each name that the model lists has one control in each form. -/
structure Generator.Coherent (g : Generator) : Prop where
  create : identities (fragment g.fields .create) = g.fields.names
  edit : identities (fragment g.fields .edit) = g.fields.names
  cells : (lines (cells g.fields)).map cellName? = g.fields.names.map some
  headings : lines (fragment g.fields .list) =
    g.fields.names.map fun name => "<th>" ++ Naming.label name ++ "</th>\n"
  listed : listedNames g.fillable = g.fields.names.map some
  aligned : (lines (fragment g.fields .list)).length = (lines (Markup.cells g.fields)).length
  once : ∀ name, some name ∈ listedNames g.fillable → ∀ mode, mode ≠ .list →
    (identities (fragment g.fields mode)).count name = 1

/-- Whatever the kinds and rules of the fields are, no text between the names looks like one of
them. -/
theorem Generator.coherent_of_isPlain {g : Generator}
    (h : ∀ field ∈ g.fields.fields, field.IsPlain) : g.Coherent := by
  have hcomma : ∀ name ∈ g.fields.names, ',' ∉ name.toList :=
    List.forall_mem_map.2 fun field hfield =>
      Naming.notMem_of_isPlain (h field hfield).name (by decide) (by decide)
  have hlisted := g.listedNames_fillable hcomma
  refine ⟨identities_fragment h (by decide), identities_fragment h (by decide),
    map_cellName?_cells h, ?_, hlisted, ?_, fun name hname mode hmode => ?_⟩
  · rw [lines_headings h, FieldList.names, List.map_map]
    rfl
  · rw [lines_headings h, lines_cells h, List.length_map, List.length_map]
  · rw [hlisted] at hname
    rw [identities_fragment h hmode]
    obtain ⟨listed, hmem, hsome⟩ := List.mem_map.1 hname
    exact List.count_eq_one_of_mem g.fields.distinct (Option.some.inj hsome ▸ hmem)

/-- Fields with the names of attributes, one of them of a kind that ends in an attribute. -/
def lookalikes : FieldList :=
  ⟨[⟨"name", .custom "text-name", ["required"]⟩, ⟨"_id", .known .richText, []⟩,
    ⟨"id", .known .choice, ["max:9"]⟩], by decide⟩

theorem coherent_lookalikes :
    (∀ field ∈ lookalikes.fields, field.IsPlain) ∧
      Generator.Coherent
        ⟨⟨"Post", by decide⟩, lookalikes, .of ⟨"."⟩ Settings.standard, .builtin⟩ ∧
      identities (fragment lookalikes .edit) = ["name", "_id", "id"] := by
  have hplain : ∀ field ∈ lookalikes.fields, field.IsPlain := by decide
  have hcoherent := @Generator.coherent_of_isPlain
    ⟨⟨"Post", by decide⟩, lookalikes, .of ⟨"."⟩ Settings.standard, .builtin⟩ hplain
  exact ⟨hplain, hcoherent, hcoherent.edit⟩

end CrudForge
