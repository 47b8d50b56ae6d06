import CrudForge.Markup

/-!
# Parts of controls

A control is written in three parts. Its opening tag has the name and the identity of the field,
then the other attributes, and last the attribute that demands a value, if it is there; the rest of
the control follows. Of the parts only that last attribute depends on the rules of the field.

## Main definitions

* `Control.tagStart`, `Control.attributes` — what stands in front of the name in the opening tag,
  and what stands behind the identity.
* `Control.rest` — what follows the opening tag.
-/

namespace CrudForge

open Markup

namespace Control

/-- What a control starts with, up to the name in its opening tag. -/
def tagStart : Control → String
  | input type => "    <input type=\"" ++ type ++ "\""
  | textArea | richText => "    <textarea"
  | select => "    <select"
  | filePicker => "    <div class=\"custom-file\">
        <input type=\"file\""

/-- The attributes behind the identity, without the one that demands a value. -/
def attributes (control : Control) (field value : String) : String :=
  match control with
  | input _ => style "form-control" field ++ " value=\"" ++ value ++ "\""
  | textArea => style "form-control" field ++ " rows=\"3\""
  | select => style "form-control" field
  | filePicker => style "custom-file-input" field
  | richText => style "form-control wysiwyg" field

/-- What a control has behind its opening tag. -/
def rest (control : Control) (field value : String) : String :=
  match control with
  | input _ => ""
  | textArea | richText => value ++ "</textarea>"
  | select => "
        <option value=\"\">Select " ++ Naming.label field ++ "</option>
        \x7b\x7b-- Add your options here --\x7d\x7d
    </select>"
  | filePicker => "
        <label class=\"custom-file-label\" for=\"" ++ field ++ "\">Choose file</label>
    </div>"

/-- An input is of the type that its kind of field names. -/
theorem eq_inputType_of_ofKind {kind : Kind} {type : String} (h : ofKind kind = input type) :
    type = kind.inputType := by
  unfold ofKind at h
  split at h
  · cases h
  · cases h
  · cases h
  · cases h
  · exact (input.inj h).symm

/-- A control is an opening tag and the rest. -/
theorem element_eq (control : Control) (field value required : String) :
    control.element field value required =
      control.tagStart ++ identity field ++ control.attributes field value ++ required ++ ">" ++
        control.rest field value := by
  unfold element tagStart attributes rest
  cases control with
  | input type => simp only [String.append_assoc, String.append_empty]
  | textArea => simp only [String.append_assoc]
  | richText => simp only [String.append_assoc]
  | select =>
    have hend : ">\n        <option value=\"\">Select " =
        ">" ++ "\n        <option value=\"\">Select " := by decide
    simp only [hend, String.append_assoc]
  | filePicker =>
    have hend : ">\n        <label class=\"custom-file-label\" for=\"" =
        ">" ++ "\n        <label class=\"custom-file-label\" for=\"" := by decide
    simp only [hend, String.append_assoc]

end Control

namespace Markup

/-- The form group of a field up to its name in the opening tag of the control. -/
def groupHead (field : Field) : String :=
  groupStart field.name ++ (Control.ofKind field.kind).tagStart

/-- The attributes of a field's control behind the identity, without the one that demands a
value. -/
def attributes (field : Field) (mode : ViewMode) : String :=
  (Control.ofKind field.kind).attributes field.name (value field.name mode)

/-- The form group of a field behind the opening tag of the control. -/
def groupRest (field : Field) (mode : ViewMode) : String :=
  (Control.ofKind field.kind).rest field.name (value field.name mode) ++ groupEnd field.name ++
    if Control.ofKind field.kind = .richText then editorScript field.name else ""

theorem formGroup_eq (field : Field) (mode : ViewMode) :
    formGroup field mode =
      groupHead field ++ identity field.name ++ attributes field mode ++ required field ++ ">" ++
        groupRest field mode := by
  rw [formGroup, Control.render, Control.element_eq]
  simp only [groupHead, attributes, groupRest, String.append_assoc]

end Markup

end CrudForge
