import CrudForge.Markup
import CrudForge.Proofs.Markup.Control
import CrudForge.Proofs.Naming.Label
import CrudForge.Proofs.Stub.Parts

/-!
# Markup of fields without braces

The markup of fields has many double braces: echoes, and the remark in a choice. No slot for a word
starts at any of them. So where the texts of the fields have no opening braces, their markup is
inert.

## Main definitions

* `Field.IsBraceless` — fields without opening braces.
-/

namespace CrudForge

open Template

/-- Name, kind and rules have no opening braces. -/
structure Field.IsBraceless (field : Field) : Prop where
  name : '\x7b' ∉ field.name.toList
  kind : '\x7b' ∉ field.kind.keyword.toList
  rules : ∀ rule ∈ field.rules, '\x7b' ∉ rule.toList

instance (field : Field) : Decidable field.IsBraceless :=
  decidable_of_iff ('\x7b' ∉ field.name.toList ∧ '\x7b' ∉ field.kind.keyword.toList ∧
      ∀ rule ∈ field.rules, '\x7b' ∉ rule.toList)
    ⟨fun h => ⟨h.1, h.2.1, h.2.2⟩, fun h => ⟨h.1, h.2, h.3⟩⟩

namespace Field.IsBraceless

variable {field : Field}

theorem inputType (h : field.IsBraceless) : '\x7b' ∉ field.kind.inputType.toList := by
  cases hkind : field.kind with
  | known known => cases known <;> decide
  | custom text => simpa [hkind, Kind.keyword, Kind.inputType] using h.kind

theorem ruleText (h : field.IsBraceless) : '\x7b' ∉ field.ruleText.toList :=
  Text.notMem_join (by decide) h.rules

end Field.IsBraceless

namespace Markup

section Groups

variable {name : String}

/-- The braces of an echo stand next to spaces. -/
theorem inert_echo {expression : String} (h : Inert expression) : Inert (echo expression) :=
  (Inert.append (inert_ofList rfl) h).append (inert_ofList rfl)

theorem inert_label (h : '\x7b' ∉ name.toList) : Inert (Naming.label name) :=
  inert_of_notMem (Naming.notMem_label_of_notMem (by decide) (by decide) (by decide) h)

theorem inert_value (h : Inert name) (mode : ViewMode) : Inert (value name mode) := by
  have hold : Inert (echo ("old('" ++ name ++ "')")) :=
    inert_echo ((Inert.append (inert_ofList rfl) h).append (inert_ofList rfl))
  cases mode with
  | edit => exact inert_echo (Inert.append (inert_ofList rfl) h)
  | create => exact hold
  | list => exact hold

theorem inert_identity (h : Inert name) : Inert (identity name) := by
  have hname : Inert (" name=\"" ++ name) := Inert.append (inert_ofList rfl) h
  have hid : Inert (" name=\"" ++ name ++ "\" id=\"" ++ name) :=
    (hname.append (inert_ofList rfl)).append h
  exact hid.append (inert_ofList rfl)

theorem inert_style {classes : String} (hclasses : Inert classes) (h : Inert name) :
    Inert (style classes name) := by
  have hstart : Inert (" class=\"" ++ classes) := Inert.append (inert_ofList rfl) hclasses
  exact ((hstart.append (inert_ofList rfl)).append h).append (inert_ofList rfl)

theorem inert_groupStart (h : '\x7b' ∉ name.toList) : Inert (groupStart name) := by
  have hfor : Inert ("
<div class=\"form-group\">
    <label for=\"" ++ name) := Inert.append (inert_ofList rfl) (inert_of_notMem h)
  exact ((hfor.append (inert_ofList rfl)).append (inert_label h)).append (inert_ofList rfl)

theorem inert_groupEnd (h : Inert name) : Inert (groupEnd name) := by
  have herror : Inert ("    @error('" ++ name) := Inert.append (inert_ofList rfl) h
  have hmessage : Inert (echo "$message") := inert_echo (inert_ofList rfl)
  have hblock : Inert (errorBlock name) :=
    ((herror.append (inert_ofList rfl)).append hmessage).append (inert_ofList rfl)
  exact (Inert.append (inert_ofList rfl) hblock).append (inert_ofList rfl)

theorem inert_editorScript (h : Inert name) : Inert (editorScript name) :=
  (Inert.append (inert_ofList rfl) h).append (inert_ofList rfl)

end Groups

end Markup

namespace Control

open Markup

variable {name value : String}

theorem inert_tagStart {control : Control}
    (h : ∀ type, control = input type → '\x7b' ∉ type.toList) : Inert control.tagStart := by
  cases control with
  | input type =>
    have htype : Inert type := inert_of_notMem (h type rfl)
    exact (Inert.append (inert_ofList rfl) htype).append (inert_ofList rfl)
  | textArea => exact inert_ofList rfl
  | richText => exact inert_ofList rfl
  | select => exact inert_ofList rfl
  | filePicker => exact inert_ofList rfl

theorem inert_attributes (control : Control) (h : Inert name) (hvalue : Inert value) :
    Inert (control.attributes name value) := by
  have hplain : Inert (style "form-control" name) := inert_style (inert_ofList rfl) h
  cases control with
  | input type => exact ((hplain.append (inert_ofList rfl)).append hvalue).append (inert_ofList rfl)
  | textArea => exact hplain.append (inert_ofList rfl)
  | select => exact hplain
  | filePicker => exact inert_style (inert_ofList rfl) h
  | richText => exact inert_style (inert_ofList rfl) h

theorem inert_rest (control : Control) (h : '\x7b' ∉ name.toList) (hvalue : Inert value) :
    Inert (control.rest name value) := by
  have hname : Inert name := inert_of_notMem h
  cases control with
  | input type => exact inert_empty
  | textArea => exact hvalue.append (inert_ofList rfl)
  | richText => exact hvalue.append (inert_ofList rfl)
  | select => exact (Inert.append (inert_ofList rfl) (inert_label h)).append (inert_ofList rfl)
  | filePicker => exact (Inert.append (inert_ofList rfl) hname).append (inert_ofList rfl)

end Control

namespace Markup

variable {field : Field}

theorem inert_required (field : Field) : Inert (required field) := by
  unfold required
  split
  · exact inert_ofList rfl
  · exact inert_empty

theorem inert_formGroup (h : field.IsBraceless) (mode : ViewMode) :
    Inert (formGroup field mode) := by
  have hname : Inert field.name := inert_of_notMem h.name
  have hvalue : Inert (value field.name mode) := inert_value hname mode
  have hhead : Inert (groupHead field) := by
    refine (inert_groupStart h.name).append (Control.inert_tagStart fun type htype => ?_)
    rw [Control.eq_inputType_of_ofKind htype]
    exact h.inputType
  have hattributes : Inert (attributes field mode) := Control.inert_attributes _ hname hvalue
  have hscript : Inert (if Control.ofKind field.kind = .richText then editorScript field.name
      else "") := by
    split
    · exact inert_editorScript hname
    · exact inert_empty
  have hrest : Inert (groupRest field mode) :=
    ((Control.inert_rest _ h.name hvalue).append (inert_groupEnd hname)).append hscript
  have htag : Inert (groupHead field ++ identity field.name ++ attributes field mode ++
      required field ++ ">") :=
    (((hhead.append (inert_identity hname)).append hattributes).append
      (inert_required field)).append (inert_ofList rfl)
  rw [formGroup_eq]
  exact htag.append hrest

theorem inert_heading (h : field.IsBraceless) : Inert (heading field) :=
  (Inert.append (inert_ofList rfl) (inert_label h.name)).append (inert_ofList rfl)

theorem inert_cell (h : field.IsBraceless) : Inert (cell field) := by
  have hitem : Inert ("$item->" ++ field.name) :=
    Inert.append (inert_ofList rfl) (inert_of_notMem h.name)
  exact (Inert.append (inert_ofList rfl) (inert_echo hitem)).append (inert_ofList rfl)

section Rows

variable {fields : FieldList}

theorem inert_cells (h : ∀ field ∈ fields.fields, field.IsBraceless) : Inert (cells fields) :=
  inert_concat (List.forall_mem_map.2 fun field hfield => inert_cell (h field hfield))

theorem inert_fragment (h : ∀ field ∈ fields.fields, field.IsBraceless) (mode : ViewMode) :
    Inert (fragment fields mode) := by
  have hforms (mode : ViewMode) : Inert (Text.concat (fields.fields.map (formGroup · mode))) :=
    inert_concat (List.forall_mem_map.2 fun field hfield => inert_formGroup (h field hfield) mode)
  cases mode with
  | list =>
    exact inert_concat (List.forall_mem_map.2 fun field hfield => inert_heading (h field hfield))
  | create => exact hforms .create
  | edit => exact hforms .edit

end Rows

end Markup

end CrudForge
