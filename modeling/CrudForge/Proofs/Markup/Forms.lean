import CrudForge.Field.List
import CrudForge.Proofs.Markup.OpenTag
import Mathlib.Data.List.Forall2

/-!
# Forms side by side

Two forms of one resource are compared group by group. The form for a new record and the form for
one that exists differ in the expressions that fill the controls, and nowhere else. Where the fields
differ in their rules alone, the forms differ in the mark that demands a value, which stands
directly in front of the end of an opening tag.

## Main definitions

* `Field.subject` — what a field asks for, apart from its rules.
* `Markup.DiffersInValue` — how the groups of a field differ between the two forms.
* `Markup.DiffersInMark` — how the groups of two fields differ that have different rules.
* `Markup.GroupByGroup` — a relation of groups, for forms.
-/

namespace CrudForge

namespace Control

open Markup

/-- The kinds whose controls leave their value out. -/
theorem ofKind_valueless {kind : Kind} :
    (ofKind kind = select ∨ ofKind kind = filePicker) ↔
      (kind = .known .choice ∨ kind = .known .file) := by
  unfold ofKind
  split <;> simp_all

/-- Every other control takes its value in at one place. -/
theorem element_takes {control : Control} (hselect : control ≠ select)
    (hpicker : control ≠ filePicker) (field required : String) :
    ∃ before behind, ∀ value, control.element field value required = before ++ value ++ behind := by
  have htextArea : ∀ start : String, ∃ before behind, ∀ value,
      start ++ required ++ ">" ++ value ++ "</textarea>" = before ++ value ++ behind := fun start =>
    ⟨start ++ required ++ ">", "</textarea>", fun value => rfl⟩
  unfold element
  cases control with
  | input type =>
    refine ⟨"    <input type=\"" ++ type ++ "\"" ++ identity field ++ style "form-control" field ++
      " value=\"", "\"" ++ required ++ ">", fun value => ?_⟩
    simp only [String.append_assoc]
  | textArea => exact htextArea _
  | richText => exact htextArea _
  | select => exact absurd rfl hselect
  | filePicker => exact absurd rfl hpicker

end Control

/-- What a field asks for, whatever its rules are: the name and the kind. -/
def Field.subject (field : Field) : String × Kind :=
  (field.name, field.kind)

namespace Markup

/-! ## Groups -/

/-- The form groups of a field for a new record and for one that exists: they are the same where the
control shows no value, and elsewhere they differ in one expression. -/
def DiffersInValue (field : Field) (create edit : String) : Prop :=
  if field.kind = .known .choice ∨ field.kind = .known .file then create = edit
  else ∃ before behind,
    create = before ++ ("\x7b\x7b old('" ++ field.name ++ "') \x7d\x7d") ++ behind ∧
    edit = before ++ ("\x7b\x7b $item->" ++ field.name ++ " \x7d\x7d") ++ behind

/-- `marked` is `plain` with the mark that demands a value put in once, directly in front of the end
of the opening tag of the control. Where quotes are not disturbed, a reader finds that end. -/
def IsMarked (field : Field) (mode : ViewMode) (plain marked : String) : Prop :=
  (openTag field mode).IsControl field.name ∧ ∃ before behind,
    plain = before ++ (openTag field mode).render ++ ">" ++ behind ∧
    marked = before ++ (openTag field mode).render ++ " required" ++ ">" ++ behind ∧
    (field.IsQuoteless →
      Tag.behind? false ((openTag field mode).render ++ ">" ++ behind).toList = some behind.toList)

/-- The form groups of two fields that ask for the same: they are the same where both fields or none
of them demand a value, and else one is the other with the mark. -/
inductive DiffersInMark (mode : ViewMode) (field other : Field) (text otherText : String) : Prop
  | alike (h : "required" ∈ field.rules ↔ "required" ∈ other.rules) (heq : text = otherText)
  | first (h : "required" ∈ field.rules) (hother : "required" ∉ other.rules)
      (hmarked : IsMarked field mode otherText text)
  | second (h : "required" ∉ field.rules) (hother : "required" ∈ other.rules)
      (hmarked : IsMarked other mode text otherText)

section Groups

variable {field other : Field} {mode : ViewMode}

theorem differsInValue_formGroup (field : Field) :
    DiffersInValue field (formGroup field .create) (formGroup field .edit) := by
  unfold DiffersInValue
  split
  · rename_i hkind
    obtain hcontrol | hcontrol := Control.ofKind_valueless.2 hkind
    · rw [formGroup, formGroup, hcontrol]
      rfl
    · rw [formGroup, formGroup, hcontrol]
      rfl
  · rename_i hkind
    obtain ⟨hselect, hpicker⟩ := not_or.1 (mt Control.ofKind_valueless.1 hkind)
    obtain ⟨before, behind, helement⟩ :=
      Control.element_takes hselect hpicker field.name (required field)
    refine ⟨groupStart field.name ++ before, behind ++ groupEnd field.name ++
      if Control.ofKind field.kind = .richText then editorScript field.name else "", ?_, ?_⟩
    · have hvalue : value field.name .create =
          "\x7b\x7b old('" ++ field.name ++ "') \x7d\x7d" :=
        String.toList_inj.1 (by simp [value, echo])
      simp only [formGroup, Control.render, helement, hvalue, String.append_assoc]
    · have hvalue : value field.name .edit =
          "\x7b\x7b $item->" ++ field.name ++ " \x7d\x7d" :=
        String.toList_inj.1 (by simp [value, echo])
      simp only [formGroup, Control.render, helement, hvalue, String.append_assoc]

/-- The group of a field that demands a value is the group with the mark. -/
theorem isMarked_formGroup (h : field.subject = other.subject)
    (hfield : "required" ∈ field.rules) (hother : "required" ∉ other.rules) (mode : ViewMode) :
    IsMarked field mode (formGroup other mode) (formGroup field mode) := by
  have hmark : required field = " required" := by simp [required, Field.isRequired, hfield]
  have hnone : required other = "" := by simp [required, Field.isRequired, hother]
  obtain ⟨name, kind, rules⟩ := field
  obtain ⟨_, _, rules'⟩ := other
  obtain ⟨rfl, rfl⟩ := Prod.mk.inj h
  refine ⟨Control.isControl_openTag _ _ _, groupStart name ++ (Control.ofKind kind).indent,
    groupRest ⟨name, kind, rules⟩ mode, ?_, ?_, fun hquote => ?_⟩
  · rw [formGroup_eq_tag, hnone, String.append_empty]
    rfl
  · rw [formGroup_eq_tag, hmark]
  · exact Tag.behind?_render (isProper_openTag hquote mode) _

/-- Beyond the mark the rules do not matter. -/
theorem formGroup_congr (h : field.subject = other.subject)
    (hmark : required field = required other) (mode : ViewMode) :
    formGroup field mode = formGroup other mode := by
  obtain ⟨hname, hkind⟩ := Prod.mk.inj h
  rw [formGroup, formGroup, hname, hkind, hmark]

theorem differsInMark_formGroup (h : field.subject = other.subject) (mode : ViewMode) :
    DiffersInMark mode field other (formGroup field mode) (formGroup other mode) := by
  by_cases hfield : "required" ∈ field.rules
  · by_cases hother : "required" ∈ other.rules
    · exact .alike (iff_of_true hfield hother)
        (formGroup_congr h (by simp [required, Field.isRequired, hfield, hother]) mode)
    · exact .first hfield hother (isMarked_formGroup h hfield hother mode)
  · by_cases hother : "required" ∈ other.rules
    · exact .second hfield hother (isMarked_formGroup h.symm hother hfield mode)
    · exact .alike (iff_of_false hfield hother)
        (formGroup_congr h (by simp [required, Field.isRequired, hfield, hother]) mode)

end Groups

/-! ## Forms -/

/-- Two texts consist of groups, one for each two fields, and the groups are related. -/
inductive GroupByGroup (R : Field → Field → String → String → Prop) :
    List Field → List Field → String → String → Prop
  | nil : GroupByGroup R [] [] "" ""
  | cons {field other : Field} {group otherGroup : String} {fields others : List Field}
      {text otherText : String} (head : R field other group otherGroup)
      (tail : GroupByGroup R fields others text otherText) :
      GroupByGroup R (field :: fields) (other :: others) (group ++ text) (otherGroup ++ otherText)

section Forms

variable {R : Field → Field → String → String → Prop} {f g : Field → String}
  {fields others : List Field} {l other : FieldList}

theorem groupByGroup_concat
    (h : List.Forall₂ (fun field other => R field other (f field) (g other)) fields others) :
    GroupByGroup R fields others (Text.concat (fields.map f)) (Text.concat (others.map g)) := by
  induction h with
  | nil => exact .nil
  | cons head _ ih => exact .cons head ih

theorem fragment_of_ne_list (l : FieldList) {mode : ViewMode} (h : mode ≠ .list) :
    fragment l mode = Text.concat (l.fields.map (formGroup · mode)) := by
  cases mode with
  | list => exact absurd rfl h
  | create => rfl
  | edit => rfl

/-- The form for a new record and the form for one that exists. -/
theorem differsInValue_fragment (l : FieldList) :
    GroupByGroup (fun field _ => DiffersInValue field) l.fields l.fields
      (fragment l .create) (fragment l .edit) :=
  groupByGroup_concat (List.forall₂_same.2 fun field _ => differsInValue_formGroup field)

/-- Forms of lists of fields that ask for the same. -/
theorem differsInMark_fragment (h : l.fields.map Field.subject = other.fields.map Field.subject)
    {mode : ViewMode} (hmode : mode ≠ .list) :
    GroupByGroup (DiffersInMark mode) l.fields other.fields
      (fragment l mode) (fragment other mode) := by
  have hsubjects : List.Forall₂ (fun field other : Field => field.subject = other.subject)
      l.fields other.fields := by
    rwa [← List.forall₂_eq_eq_eq, List.forall₂_map_left_iff, List.forall₂_map_right_iff] at h
  rw [fragment_of_ne_list l hmode, fragment_of_ne_list other hmode]
  exact groupByGroup_concat (hsubjects.imp fun field other h => differsInMark_formGroup h mode)

/-- The rules leave the headings of the list alone. -/
theorem fragment_list_congr (h : l.fields.map Field.subject = other.fields.map Field.subject) :
    fragment l .list = fragment other .list := by
  have hheading : heading = (fun subject : String × Kind =>
      "<th>" ++ Naming.label subject.1 ++ "</th>\n") ∘ Field.subject := rfl
  rw [fragment, fragment, hheading, ← List.map_map, ← List.map_map, h]

end Forms

/-- The form for a new record and the form for one that exists differ in the expressions for the
values only. The rules of a field are seen in its form only by the mark that demands a value. Both
hold for a single field, and group by group for lists of any length. -/
theorem forms_side_by_side :
    (∀ field, DiffersInValue field (formGroup field .create) (formGroup field .edit)) ∧
    (∀ field other : Field, field.subject = other.subject → ∀ mode,
      DiffersInMark mode field other (formGroup field mode) (formGroup other mode)) ∧
    (∀ l : FieldList, GroupByGroup (fun field _ => DiffersInValue field) l.fields l.fields
      (fragment l .create) (fragment l .edit)) ∧
    ∀ l other : FieldList, l.fields.map Field.subject = other.fields.map Field.subject →
      fragment l .list = fragment other .list ∧
      ∀ mode ≠ .list, GroupByGroup (DiffersInMark mode) l.fields other.fields
        (fragment l mode) (fragment other mode) :=
  ⟨differsInValue_formGroup, fun _ _ h mode => differsInMark_formGroup h mode,
    differsInValue_fragment,
    fun _ _ h => ⟨fragment_list_congr h, fun _ hmode => differsInMark_fragment h hmode⟩⟩

/-- A title that is demanded, with a cover that is not, beside the same without rules. -/
theorem forms_side_by_side_post :
    let plain : FieldList :=
      ⟨[⟨"title", .known .shortText, []⟩, ⟨"cover", .known .file, []⟩], by decide⟩
    let strict : FieldList :=
      ⟨[⟨"title", .known .shortText, ["required", "max:255"]⟩,
        ⟨"cover", .known .file, ["max:64"]⟩], by decide⟩
    plain.fields.map Field.subject = strict.fields.map Field.subject ∧
    GroupByGroup (DiffersInMark .edit) plain.fields strict.fields
      (fragment plain .edit) (fragment strict .edit) ∧
    fragment plain .edit ≠ fragment strict .edit := by
  refine ⟨by decide, (forms_side_by_side.2.2.2 _ _ (by decide)).2 .edit (by decide), ?_⟩
  decide +kernel

end Markup

end CrudForge
