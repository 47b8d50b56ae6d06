import CrudForge.Proofs.Markup.Control

/-!
# Opening tags

A control has an opening tag with its attributes, all of them between quotes. A reader that minds
the quotes finds the end of the tag, unless the name or the kind of the field has quotes itself.

## Main definitions

* `Tag` — an opening tag with its attributes; `Tag.behind?` reads to the end of one.
* `Control.openTag` — the opening tag of a control, without the mark that demands a value.
* `Tag.IsControl` — the tag is that of a control with a name.
* `Field.IsQuoteless` — fields whose opening tag is not disturbed.
-/

namespace CrudForge

/-! ## Tags and their ends -/

/-- An opening tag: an element and its attributes, each with a value. -/
structure Tag where
  element : String
  attributes : List (String × String)

namespace Tag

/-- An attribute with its value between quotes. -/
def attr (entry : String × String) : String :=
  " " ++ entry.1 ++ "=\"" ++ entry.2 ++ "\""

/-- The tag, up to the character that ends it. -/
def render (tag : Tag) : String :=
  "<" ++ tag.element ++ Text.concat (tag.attributes.map attr)

/-- What stands behind the first end of a tag that is not between quotes. -/
def behind? : Bool → List Char → Option (List Char)
  | _, [] => none
  | quoted, c :: cs =>
    if c = '"' then behind? (!quoted) cs
    else if c = '>' && !quoted then some cs
    else behind? quoted cs

/-- Neither a quote nor the end of a tag. -/
def isBare (c : Char) : Bool :=
  c ≠ '"' && c ≠ '>'

/-- Quotes stand around the values only, and the tag does not end before all attributes. -/
structure IsProper (tag : Tag) : Prop where
  element : tag.element.toList.all isBare = true
  keys : ∀ entry ∈ tag.attributes, entry.1.toList.all isBare = true
  values : ∀ entry ∈ tag.attributes, '"' ∉ entry.2.toList

/-- The tag of a control that has `name` as its name and its identity. -/
structure IsControl (tag : Tag) (name : String) : Prop where
  element : tag.element ∈ ["input", "select", "textarea"]
  named : ("name", name) ∈ tag.attributes
  identified : ("id", name) ∈ tag.attributes

theorem behind?_bare_append {cs : List Char} (h : cs.all isBare = true) (rest : List Char) :
    behind? false (cs ++ rest) = behind? false rest := by
  induction cs with
  | nil => rfl
  | cons c cs ih =>
    simp only [List.all_cons, isBare, Bool.and_eq_true, decide_eq_true_eq] at h
    obtain ⟨⟨hquote, hend⟩, hcs⟩ := h
    simp only [List.cons_append, behind?, hquote, hend, if_false, decide_false, Bool.false_and]
    exact ih hcs

theorem behind?_quoted_append {cs : List Char} (h : '"' ∉ cs) (rest : List Char) :
    behind? true (cs ++ '"' :: rest) = behind? false rest := by
  induction cs with
  | nil => simp [behind?]
  | cons c cs ih =>
    obtain ⟨hquote, hcs⟩ := not_or.1 (mt List.mem_cons.2 h)
    simp only [List.cons_append, behind?, Ne.symm hquote, if_false, Bool.not_true, Bool.and_false]
    exact ih hcs

/-- An attribute is passed as a whole. -/
theorem behind?_attr_append {entry : String × String} (hkey : entry.1.toList.all isBare = true)
    (hvalue : '"' ∉ entry.2.toList) (rest : List Char) :
    behind? false ((attr entry).toList ++ rest) = behind? false rest := by
  have hstart : (" ".toList ++ entry.1.toList ++ "=".toList).all isBare = true := by
    simp only [List.all_append, hkey]
    decide
  have hchars : (attr entry).toList ++ rest =
      (" ".toList ++ entry.1.toList ++ "=".toList) ++ '"' :: (entry.2.toList ++ '"' :: rest) := by
    have heq : "=\"".toList = "=".toList ++ ['"'] := by decide
    simp [attr, heq]
  rw [hchars, behind?_bare_append hstart]
  have hopen : behind? false ('"' :: (entry.2.toList ++ '"' :: rest)) =
      behind? true (entry.2.toList ++ '"' :: rest) := by
    simp [behind?]
  rw [hopen, behind?_quoted_append hvalue]

theorem behind?_attrs_append {entries : List (String × String)}
    (hkeys : ∀ entry ∈ entries, entry.1.toList.all isBare = true)
    (hvalues : ∀ entry ∈ entries, '"' ∉ entry.2.toList) (rest : List Char) :
    behind? false ((Text.concat (entries.map attr)).toList ++ rest) = behind? false rest := by
  induction entries with
  | nil => rfl
  | cons entry entries ih =>
    obtain ⟨hkey, hkeys⟩ := List.forall_mem_cons.1 hkeys
    obtain ⟨hvalue, hvalues⟩ := List.forall_mem_cons.1 hvalues
    have hchars : (Text.concat ((entry :: entries).map attr)).toList =
        (attr entry).toList ++ (Text.concat (entries.map attr)).toList :=
      String.toList_append
    rw [hchars, List.append_assoc, behind?_attr_append hkey hvalue, ih hkeys hvalues]

/-- A proper tag is read to its end, and what follows is left. -/
theorem behind?_render {tag : Tag} (h : tag.IsProper) (behind : String) :
    behind? false (tag.render ++ ">" ++ behind).toList = some behind.toList := by
  have hstart : ("<".toList ++ tag.element.toList).all isBare = true := by
    simp only [List.all_append, h.element, Bool.and_true]
    decide
  have hchars : (tag.render ++ ">" ++ behind).toList =
      ("<".toList ++ tag.element.toList) ++
        ((Text.concat (tag.attributes.map attr)).toList ++ '>' :: behind.toList) := by
    simp [render]
  rw [hchars, behind?_bare_append hstart, behind?_attrs_append h.keys h.values]
  simp [behind?]

end Tag

/-! ## The tags of controls -/

namespace Control

open Markup

variable {field value : String}

/-- The value of the class attribute of a control. -/
def classes (start field : String) : String :=
  start ++ " @error('" ++ field ++ "') is-invalid @enderror"

/-- The opening tag of a control, without the mark that demands a value. -/
def openTag (control : Control) (field value : String) : Tag :=
  match control with
  | input type => ⟨"input", [("type", type), ("name", field), ("id", field),
      ("class", classes "form-control" field), ("value", value)]⟩
  | textArea => ⟨"textarea", [("name", field), ("id", field),
      ("class", classes "form-control" field), ("rows", "3")]⟩
  | select => ⟨"select", [("name", field), ("id", field), ("class", classes "form-control" field)]⟩
  | filePicker => ⟨"input", [("type", "file"), ("name", field), ("id", field),
      ("class", classes "custom-file-input" field)]⟩
  | richText => ⟨"textarea", [("name", field), ("id", field),
      ("class", classes "form-control wysiwyg" field)]⟩

/-- What stands in front of the opening tag. -/
def indent : Control → String
  | filePicker => "    <div class=\"custom-file\">\n        "
  | _ => "    "

theorem identity_eq : identity field = Tag.attr ("name", field) ++ Tag.attr ("id", field) :=
  String.toList_inj.1 (by simp [identity, Tag.attr])

theorem style_eq (start : String) :
    style start field = Tag.attr ("class", classes start field) :=
  String.toList_inj.1 (by simp [style, classes, Tag.attr])

/-- In front of its mark a control is the opening tag, with what stands before it. -/
theorem tagStart_append (control : Control) (field value : String) :
    control.tagStart ++ identity field ++ control.attributes field value =
      control.indent ++ (control.openTag field value).render := by
  unfold tagStart attributes indent openTag Tag.render Text.concat
  simp only [identity_eq, style_eq]
  cases control with
  | input type =>
    have htype : "    <input type=\"" ++ type ++ "\"" = "    <input" ++ Tag.attr ("type", type) :=
      String.toList_inj.1 (by simp [Tag.attr])
    have hvalue : Tag.attr ("value", value) = " value=\"" ++ value ++ "\"" :=
      String.toList_inj.1 (by simp [Tag.attr])
    simp [htype, hvalue, ← String.append_assoc]
  | textArea =>
    have hrows : Tag.attr ("rows", "3") = " rows=\"3\"" := by decide
    simp [hrows, ← String.append_assoc]
  | select => simp [← String.append_assoc]
  | filePicker =>
    have htype : Tag.attr ("type", "file") = " type=\"file\"" := by decide
    simp [htype, ← String.append_assoc]
  | richText => simp [← String.append_assoc]

theorem isControl_openTag (control : Control) (field value : String) :
    (control.openTag field value).IsControl field := by
  cases control <;> exact ⟨by simp [openTag], by simp [openTag], by simp [openTag]⟩

theorem key_mem_of_openTag {control : Control} {entry : String × String}
    (h : entry ∈ (control.openTag field value).attributes) :
    entry.1 ∈ ["type", "name", "id", "class", "value", "rows"] := by
  cases control <;> simp only [openTag, List.mem_cons, List.not_mem_nil, or_false] at h <;> grind

/-- Where no part has a quote, the opening tag is proper. -/
theorem isProper_openTag {control : Control} (hfield : '"' ∉ field.toList)
    (hvalue : '"' ∉ value.toList) (htype : ∀ type, control = input type → '"' ∉ type.toList) :
    (control.openTag field value).IsProper := by
  have helements : ∀ element ∈ ["input", "select", "textarea"],
      element.toList.all Tag.isBare = true := by decide
  have hkeys : ∀ key ∈ ["type", "name", "id", "class", "value", "rows"],
      key.toList.all Tag.isBare = true := by decide
  have hclasses : ∀ start : String, '"' ∉ start.toList → '"' ∉ (classes start field).toList := by
    intro start hstart
    simp [classes, hstart, hfield]
  refine ⟨helements _ (isControl_openTag control field value).element,
    fun entry hentry => hkeys _ (key_mem_of_openTag hentry), ?_⟩
  unfold openTag
  cases control with
  | input type => simp [hfield, hvalue, htype type rfl, hclasses]
  | textArea => simp [hfield, hclasses]
  | select => simp [hfield, hclasses]
  | filePicker => simp [hfield, hclasses]
  | richText => simp [hfield, hclasses]

end Control

/-- Neither the name nor the kind has a quote. -/
structure Field.IsQuoteless (field : Field) : Prop where
  name : '"' ∉ field.name.toList
  kind : '"' ∉ field.kind.keyword.toList

namespace Markup

variable {field : Field}

/-- The opening tag of the control of a field, without the mark that demands a value. -/
def openTag (field : Field) (mode : ViewMode) : Tag :=
  (Control.ofKind field.kind).openTag field.name (value field.name mode)

/-- A group is what stands in front of the opening tag, the tag with its mark, and the rest. -/
theorem formGroup_eq_tag (field : Field) (mode : ViewMode) :
    formGroup field mode = groupStart field.name ++ (Control.ofKind field.kind).indent ++
      (openTag field mode).render ++ required field ++ ">" ++ groupRest field mode := by
  have htag :=
    Control.tagStart_append (Control.ofKind field.kind) field.name (value field.name mode)
  have hhead : groupHead field ++ identity field.name ++ attributes field mode =
      groupStart field.name ++ (Control.ofKind field.kind).indent ++
        (openTag field mode).render := by
    simp only [groupHead, attributes, openTag, String.append_assoc, ← htag]
  rw [formGroup_eq, hhead]

theorem isProper_openTag (h : field.IsQuoteless) (mode : ViewMode) :
    (openTag field mode).IsProper := by
  have hvalue : '"' ∉ (value field.name mode).toList := by
    cases mode <;> simp [value, echo, h.name]
  refine Control.isProper_openTag h.name hvalue fun type htype => ?_
  rw [Control.eq_inputType_of_ofKind htype]
  obtain ⟨-, hkind⟩ := h
  revert hkind
  cases field.kind with
  | known known => cases known <;> decide
  | custom text => exact id

end Markup

end CrudForge
