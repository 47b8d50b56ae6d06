import CrudForge.Field.List
import CrudForge.Naming.Basic

/-!
# Markup of fields

The fragments of the views that depend on the fields: headings and cells of the list, and the
controls of the forms.

## Main definitions

* `Control` — the form control of a kind of field; `Control.render` writes its form group.
* `Markup.value` — the expression that fills a control.
* `Markup.fragment` — the headings, or the form groups, of all fields.
* `Markup.cells` — the table cells of all fields.
-/

namespace CrudForge

/-- The view that a fragment is for: the list, the form for a new record, or the form for one that
exists. -/
inductive ViewMode
  | list
  | create
  | edit
  deriving DecidableEq

inductive Control
  | richText
  | filePicker
  | select
  | textArea
  | input (type : String)
  deriving DecidableEq

namespace Markup

/-- Double braces around an expression, which the view layer replaces by its value. -/
def echo (expression : String) : String :=
  "\x7b\x7b " ++ expression ++ " \x7d\x7d"

/-- The expression that fills the control of a field: the record's value where one is edited, else
the value of the last attempt. -/
def value (field : String) : ViewMode → String
  | .edit => echo ("$item->" ++ field)
  | .create | .list => echo ("old('" ++ field ++ "')")

def errorBlock (field : String) : String :=
  "    @error('" ++ field ++ "')
        <span class=\"invalid-feedback\" role=\"alert\">
            <strong>" ++ echo "$message" ++ "</strong>
        </span>
    @enderror"

/-- The start of a form group, with the label of the field. -/
def groupStart (field : String) : String :=
  "
<div class=\"form-group\">
    <label for=\"" ++ field ++ "\">" ++ Naming.label field ++ "</label>
"

def groupEnd (field : String) : String :=
  "\n" ++ errorBlock field ++ "\n</div>"

/-- The name and the identity of a control. -/
def identity (field : String) : String :=
  " name=\"" ++ field ++ "\" id=\"" ++ field ++ "\""

/-- The style classes of a control, with a mark for a refused value. -/
def style (classes field : String) : String :=
  " class=\"" ++ classes ++ " @error('" ++ field ++ "') is-invalid @enderror\""

/-- The script that turns the control of a field into a rich-text editor. -/
def editorScript (field : String) : String :=
  "
@push('scripts')
<script>
    ClassicEditor
        .create(document.querySelector('#" ++ field ++ "'))
        .catch(error => \x7b
            console.error(error);
        \x7d);
</script>
@endpush"

end Markup

namespace Control

def ofKind : Kind → Control
  | .known .richText => richText
  | .known .file => filePicker
  | .known .choice => select
  | .known .longText => textArea
  | kind => input kind.inputType

open Markup in
/-- The control itself, up to and with its closing tag. `required` is the attribute that demands a
value, or empty. -/
def element (control : Control) (field value required : String) : String :=
  match control with
  | input type =>
    "    <input type=\"" ++ type ++ "\"" ++ identity field ++ style "form-control" field ++
      " value=\"" ++ value ++ "\"" ++ required ++ ">"
  | textArea =>
    "    <textarea" ++ identity field ++ style "form-control" field ++ " rows=\"3\"" ++ required ++
      ">" ++ value ++ "</textarea>"
  | select =>
    "    <select" ++ identity field ++ style "form-control" field ++ required ++ ">
        <option value=\"\">Select " ++ Naming.label field ++ "</option>
        \x7b\x7b-- Add your options here --\x7d\x7d
    </select>"
  | filePicker =>
    "    <div class=\"custom-file\">
        <input type=\"file\"" ++ identity field ++ style "custom-file-input" field ++ required ++ ">
        <label class=\"custom-file-label\" for=\"" ++ field ++ "\">Choose file</label>
    </div>"
  | richText =>
    "    <textarea" ++ identity field ++ style "form-control wysiwyg" field ++ required ++ ">" ++
      value ++ "</textarea>"

/-- The form group of a field: label, control, block for errors, and the script of an editor. -/
def render (control : Control) (field value required : String) : String :=
  Markup.groupStart field ++ control.element field value required ++ Markup.groupEnd field ++
    if control = richText then Markup.editorScript field else ""

end Control

namespace Markup

/-- The attribute of a control that demands a value, if the field does. -/
def required (field : Field) : String :=
  if field.isRequired then " required" else ""

def formGroup (field : Field) (mode : ViewMode) : String :=
  (Control.ofKind field.kind).render field.name (value field.name mode) (required field)

def heading (field : Field) : String :=
  "<th>" ++ Naming.label field.name ++ "</th>\n"

def cell (field : Field) : String :=
  "<td>" ++ echo ("$item->" ++ field.name) ++ "</td>\n"

/-- The headings of the fields, or their form groups. -/
def fragment (fields : FieldList) : ViewMode → String
  | .list => Text.concat (fields.fields.map heading)
  | mode => Text.concat (fields.fields.map (formGroup · mode))

def cells (fields : FieldList) : String :=
  Text.concat (fields.fields.map cell)

end Markup
end CrudForge
