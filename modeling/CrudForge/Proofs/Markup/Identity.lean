import CrudForge.Proofs.Markup.Control
import CrudForge.Proofs.Naming.Label
import CrudForge.Proofs.Text.Cut
import Mathlib.Data.List.Infix

/-!
# Reading controls back

A form tells its controls apart by a name and an identity that are the same. Both are read at every
place of a text where they stand. The parts of a form group are silent: nothing is read in them,
whatever follows. So exactly one name is read in each form group, that of its field.

## Main definitions

* `Markup.between` — what stands between a fixed start and a character.
* `Markup.identities` — the names of the controls in a text, from left to right.
* `Markup.Silent` — texts in which no control starts.
* `Field.IsPlain` — fields with a plain name and a plain kind.
-/

namespace CrudForge

/-- A known kind, or a custom one of ASCII letters, digits and hyphens. -/
def Kind.isPlain : Kind → Bool
  | .known _ => true
  | .custom text => text.toList.all fun c => c.isAlphanum || c = '-'

/-- Name and kind have no characters with a meaning in markup. -/
structure Field.IsPlain (field : Field) : Prop where
  name : Naming.isPlain field.name = true
  kind : field.kind.isPlain = true

instance (field : Field) : Decidable field.IsPlain :=
  decidable_of_iff (Naming.isPlain field.name = true ∧ field.kind.isPlain = true)
    ⟨fun h => ⟨h.1, h.2⟩, fun h => ⟨h.1, h.2⟩⟩

namespace Markup

/-! ## Reading -/

/-- What stands in `cs` behind its start, up to `stop`. -/
def between (start : List Char) (stop : Char) (cs : List Char) : String :=
  String.ofList ((cs.drop start.length).takeWhile (· ≠ stop))

theorem between_append {start : List Char} {stop : Char} {s : String} (h : stop ∉ s.toList)
    (behind : List Char) : between start stop (start ++ (s.toList ++ stop :: behind)) = s := by
  rw [between, List.drop_left, List.takeWhile_append_of_pos (Text.decide_ne_of_notMem h)]
  simp

/-- What every name and identity starts with. -/
def mark : List Char :=
  " name=\"".toList

/-- The name that `cs` starts with, if the same identity follows. -/
def identityAt? (cs : List Char) : Option String :=
  let name := between mark '"' cs
  if (" name=\"" ++ name ++ "\" id=\"" ++ name ++ "\"").toList <+: cs then some name else none

/-- The names of the controls in `text`, from left to right. -/
def identities (text : String) : List String :=
  text.toList.tails.filterMap identityAt?

/-- In `s` no control starts, whatever follows. -/
def Silent (s : String) : Prop :=
  ∀ as, as ≠ [] → as <:+ s.toList → ∀ bs, identityAt? (as ++ bs) = none

theorem identityAt?_eq_none {cs : List Char} (h : ¬mark <+: cs) : identityAt? cs = none := by
  refine if_neg fun hidentity => h ?_
  rw [String.append_assoc, String.append_assoc, String.append_assoc, String.toList_append]
    at hidentity
  exact (List.prefix_append _ _).trans hidentity

section Silence

variable {s t : String}

theorem silent_of_noMark (h : ∀ as, as ≠ [] → as <:+ s.toList → ∀ bs, ¬mark <+: as ++ bs) :
    Silent s :=
  fun as hne hsuffix bs => identityAt?_eq_none (h as hne hsuffix bs)

theorem silent_empty : Silent "" := by
  intro as hne hsuffix
  exact absurd (List.suffix_nil.1 hsuffix) hne

theorem Silent.append (hs : Silent s) (ht : Silent t) : Silent (s ++ t) := by
  intro as hne hsuffix bs
  rw [String.toList_append] at hsuffix
  rcases Text.suffix_append_cases hsuffix with hbehind | ⟨front, hfront, hin, rfl⟩
  · exact ht as hne hbehind bs
  · rw [List.append_assoc]
    exact hs front hfront hin _

/-- A mark starts with a space. -/
theorem silent_of_noSpace (h : ' ' ∉ s.toList) : Silent s := by
  refine silent_of_noMark fun as hne hsuffix bs hmark => h ?_
  obtain ⟨c, cs, rfl⟩ := List.exists_cons_of_ne_nil hne
  obtain ⟨rfl, -⟩ := List.cons_prefix_cons.1 hmark
  exact hsuffix.subset List.mem_cons_self

/-- A fixed text is looked at in each of its places. -/
theorem silent_of_tails
    (h : ∀ as ∈ s.toList.tails, as ≠ [] → ¬as <+: mark ∧ ¬mark <+: as) : Silent s := by
  refine silent_of_noMark fun as hne hsuffix bs hmark => ?_
  obtain ⟨hbefore, hbehind⟩ := h as ((List.mem_tails as _).2 hsuffix) hne
  rcases List.prefix_or_prefix_of_prefix (List.prefix_append as bs) hmark with hinitial | hinitial
  · exact hbefore hinitial
  · exact hbehind hinitial

/-- A mark has an equality sign, so a text without it starts none unless the next character belongs
to the mark too. -/
theorem silent_of_noEquality (h : '=' ∉ s.toList) (c : Char) (hc : c ∉ mark) :
    Silent (s ++ String.singleton c) := by
  refine silent_of_noMark fun as hne hsuffix bs hmark => ?_
  rw [String.toList_append, String.toList_singleton] at hsuffix
  rcases List.suffix_concat_iff.1 hsuffix with rfl | ⟨front, rfl, hfront⟩
  · exact hne rfl
  · -- a mark from here on takes `c` in, or ends before it and then lacks its equality sign
    rcases List.prefix_or_prefix_of_prefix (List.prefix_append (front ++ [c]) bs) hmark with
      hinitial | hinitial
    · exact hc (hinitial.subset (List.mem_append_right front (List.mem_singleton_self c)))
    · rcases List.prefix_concat_iff.1 hinitial with heq | hinitial
      · exact hc (heq ▸ List.mem_append_right front (List.mem_singleton_self c))
      · exact h (hfront.subset (hinitial.subset (by decide)))

end Silence

/-! ## What is read -/

section Reading

variable {s name : String}

/-- Silent texts are passed over. -/
theorem identities_append (h : Silent s) (t : String) : identities (s ++ t) = identities t := by
  unfold identities
  rw [String.toList_append]
  have hpassed (as : List Char) (has : as <:+ s.toList) :
      (as ++ t.toList).tails.filterMap identityAt? = t.toList.tails.filterMap identityAt? := by
    induction as with
    | nil => rfl
    | cons c as ih =>
      have hnone := h (c :: as) (List.cons_ne_nil c as) has t.toList
      rw [List.cons_append] at hnone ⊢
      rw [List.tails_cons, List.filterMap_cons_none hnone]
      exact ih ((List.suffix_cons c as).trans has)
  exact hpassed s.toList (List.suffix_refl _)

/-- The name at the start is read, and no other until its identity ends. -/
theorem identities_identity_append (h : Naming.isPlain name = true) (t : String) :
    identities (identity name ++ t) = name :: identities t := by
  have hquote : '"' ∉ name.toList := Naming.notMem_of_isPlain h (by decide) (by decide)
  have hspace : ' ' ∉ name.toList := Naming.notMem_of_isPlain h (by decide) (by decide)
  have hrest : Silent ("name=\"" ++ name ++ "\" id=\"" ++ name ++ "\"") := by
    have hstart : Silent "name=\"" := silent_of_noSpace (by decide)
    have hmiddle : Silent "\" id=\"" := silent_of_tails (by decide)
    have hend : Silent "\"" := silent_of_noSpace (by decide)
    exact ((((hstart.append (silent_of_noSpace hspace)).append hmiddle).append
      (silent_of_noSpace hspace)).append hend)
  have hchars : (identity name ++ t).toList =
      mark ++ (name.toList ++ '"' :: (" id=\"" ++ name ++ "\"" ++ t).toList) := by
    unfold identity mark
    simp
  have hread : between mark '"' (identity name ++ t).toList = name := by
    rw [hchars, between_append hquote]
  have hfirst : identityAt? (identity name ++ t).toList = some name := by
    have hinitial : (identity name).toList <+: (identity name ++ t).toList :=
      ⟨t.toList, String.toList_append.symm⟩
    simp only [identityAt?, hread]
    exact if_pos hinitial
  have hcons : (identity name ++ t).toList =
      ' ' :: ("name=\"" ++ name ++ "\" id=\"" ++ name ++ "\"" ++ t).toList := by
    unfold identity
    simp
  -- the name is read at the first character, and what follows that is silent
  have hbehind := identities_append hrest t
  unfold identities at hbehind ⊢
  rw [hcons] at hfirst ⊢
  rw [List.tails_cons, List.filterMap_cons_some hfirst, hbehind]

end Reading

/-! ## Form groups -/

section Groups

variable {name : String} {field : Field} {mode : ViewMode}

theorem silent_name (h : Naming.isPlain name = true) : Silent name :=
  silent_of_noSpace (Naming.notMem_of_isPlain h (by decide) (by decide))

/-- A label has no equality sign, and the tag behind it does not continue a mark. -/
theorem silent_label {before : String} (hbefore : '=' ∉ before.toList)
    (h : Naming.isPlain name = true) : Silent (before ++ Naming.label name ++ "<") := by
  have hlabel : '=' ∉ (Naming.label name).toList :=
    Naming.notMem_label h (by decide) (by decide)
  have hboth : '=' ∉ (before ++ Naming.label name).toList := by simp [hbefore, hlabel]
  exact silent_of_noEquality hboth '<' (by decide)

/-- An expression that starts with a character outside of the mark is silent in its braces. -/
theorem silent_echo {e rest : String} (c : Char) (hc : c ∉ mark)
    (he : e = String.singleton c ++ rest) (hrest : Silent rest) : Silent (echo e) := by
  have hstart : Silent ("\x7b\x7b " ++ String.singleton c) := silent_of_noEquality (by decide) c hc
  have hend : Silent " \x7d\x7d" := silent_of_tails (by decide)
  have hall := (hstart.append hrest).append hend
  rw [echo, he]
  simpa only [String.append_assoc] using hall

theorem silent_item (h : Naming.isPlain name = true) : Silent (echo ("$item->" ++ name)) := by
  have hrest : Silent ("item->" ++ name) := (silent_of_noSpace (by decide)).append (silent_name h)
  exact silent_echo '$' (by decide) (String.toList_inj.1 (by simp)) hrest

theorem silent_old (h : Naming.isPlain name = true) : Silent (echo ("old('" ++ name ++ "')")) := by
  have hstart : Silent "ld('" := silent_of_noSpace (by decide)
  have hend : Silent "')" := silent_of_noSpace (by decide)
  have hrest : Silent ("ld('" ++ name ++ "')") := (hstart.append (silent_name h)).append hend
  exact silent_echo 'o' (by decide) (String.toList_inj.1 (by simp)) hrest

theorem silent_value (h : Naming.isPlain name = true) (mode : ViewMode) :
    Silent (value name mode) := by
  cases mode with
  | edit => exact silent_item h
  | create => exact silent_old h
  | list => exact silent_old h

theorem silent_groupStart (h : Naming.isPlain name = true) : Silent (groupStart name) := by
  have hstart : Silent "
<div class=\"form-group\">
    <label for=\"" := silent_of_tails (by decide)
  have hlabel : Silent ("\">" ++ Naming.label name ++ "<") := silent_label (by decide) h
  have hend : Silent "/label>\n" := silent_of_noSpace (by decide)
  have hall := ((hstart.append (silent_name h)).append hlabel).append hend
  have hsplit : "</label>\n" = "<" ++ "/label>\n" := by decide
  unfold groupStart
  rw [hsplit]
  simpa only [String.append_assoc] using hall

theorem silent_groupEnd (h : Naming.isPlain name = true) : Silent (groupEnd name) := by
  have hstart : Silent "\n" := silent_of_noSpace (by decide)
  have herror : Silent "    @error('" := silent_of_tails (by decide)
  have hopening : Silent "')
        <span class=\"invalid-feedback\" role=\"alert\">
            <strong>" := silent_of_tails (by decide)
  have hmessage : Silent (echo "$message") :=
    @silent_echo _ "message" '$' (by decide) (by decide) (silent_of_noSpace (by decide))
  have hclosing : Silent "</strong>
        </span>
    @enderror" := silent_of_tails (by decide)
  have hend : Silent "\n</div>" := silent_of_noSpace (by decide)
  have hblock := (((herror.append (silent_name h)).append hopening).append hmessage).append hclosing
  have hall := (hstart.append hblock).append hend
  unfold groupEnd errorBlock
  exact hall

theorem silent_style (h : Naming.isPlain name = true) {classes : String}
    (hclasses : Silent classes) : Silent (style classes name) := by
  have hstart : Silent " class=\"" := silent_of_tails (by decide)
  have herror : Silent " @error('" := silent_of_tails (by decide)
  have hend : Silent "') is-invalid @enderror\"" := silent_of_tails (by decide)
  unfold style
  exact (((hstart.append hclasses).append herror).append (silent_name h)).append hend

theorem silent_editorScript (h : Naming.isPlain name = true) : Silent (editorScript name) := by
  have hstart : Silent "
@push('scripts')
<script>
    ClassicEditor
        .create(document.querySelector('#" := silent_of_tails (by decide)
  have hend : Silent "'))
        .catch(error => \x7b
            console.error(error);
        \x7d);
</script>
@endpush" := silent_of_tails (by decide)
  unfold editorScript
  exact (hstart.append (silent_name h)).append hend

theorem silent_required (field : Field) : Silent (required field) := by
  have hattribute : Silent " required" := silent_of_tails (by decide)
  unfold required
  split
  · exact hattribute
  · exact silent_empty

theorem notMem_inputType {kind : Kind} (h : kind.isPlain = true) : ' ' ∉ kind.inputType.toList := by
  cases kind with
  | known known => cases known <;> decide
  | custom text =>
    intro hmem
    exact absurd (List.all_eq_true.1 h ' ' hmem) (by decide)

end Groups

end Markup

namespace Control

section Groups

open Markup

variable {name : String}

theorem silent_tagStart {control : Control}
    (h : ∀ type, control = input type → ' ' ∉ type.toList) : Silent control.tagStart := by
  unfold tagStart
  cases control with
  | input type =>
    have hstart : Silent "    <input type=\"" := silent_of_tails (by decide)
    have hend : Silent "\"" := silent_of_noSpace (by decide)
    exact (hstart.append (silent_of_noSpace (h type rfl))).append hend
  | textArea => exact silent_of_tails (by decide)
  | richText => exact silent_of_tails (by decide)
  | select => exact silent_of_tails (by decide)
  | filePicker => exact silent_of_tails (by decide)

theorem silent_attributes (control : Control) (h : Naming.isPlain name = true) {value : String}
    (hvalue : Silent value) : Silent (control.attributes name value) := by
  have hplain : Silent (style "form-control" name) := silent_style h (silent_of_noSpace (by decide))
  unfold attributes
  cases control with
  | input type =>
    have hstart : Silent " value=\"" := silent_of_tails (by decide)
    have hend : Silent "\"" := silent_of_noSpace (by decide)
    exact ((hplain.append hstart).append hvalue).append hend
  | textArea => exact hplain.append (silent_of_tails (by decide))
  | select => exact hplain
  | filePicker => exact silent_style h (silent_of_noSpace (by decide))
  | richText => exact silent_style h (silent_of_tails (by decide))

theorem silent_rest (control : Control) (h : Naming.isPlain name = true) {value : String}
    (hvalue : Silent value) : Silent (control.rest name value) := by
  have htext : Silent (value ++ "</textarea>") := hvalue.append (silent_of_noSpace (by decide))
  unfold rest
  cases control with
  | input type => exact silent_empty
  | textArea => exact htext
  | richText => exact htext
  | select =>
    have hstart : Silent "\n        <option value=\"\">" := silent_of_tails (by decide)
    have hlabel : Silent ("Select " ++ Naming.label name ++ "<") := silent_label (by decide) h
    have hend : Silent "/option>
        \x7b\x7b-- Add your options here --\x7d\x7d
    </select>" := silent_of_tails (by decide)
    have hall := (hstart.append hlabel).append hend
    have hbefore : "\n        <option value=\"\">Select " =
        "\n        <option value=\"\">" ++ "Select " := by decide
    have hbehind : "</option>
        \x7b\x7b-- Add your options here --\x7d\x7d
    </select>" = "<" ++ "/option>
        \x7b\x7b-- Add your options here --\x7d\x7d
    </select>" := by decide
    rw [hbefore, hbehind]
    simpa only [String.append_assoc] using hall
  | filePicker =>
    have hstart : Silent "\n        <label class=\"custom-file-label\" for=\"" :=
      silent_of_tails (by decide)
    exact (hstart.append (silent_name h)).append (silent_of_tails (by decide))

end Groups

end Control

namespace Markup

section Forms

variable {field : Field} {mode : ViewMode}

/-- In the form group of a plain field exactly its name is read. -/
theorem identities_formGroup_append (h : field.IsPlain) (mode : ViewMode) (t : String) :
    identities (formGroup field mode ++ t) = field.name :: identities t := by
  have hvalue := silent_value h.name mode
  have hhead : Silent (groupHead field) := by
    unfold groupHead
    refine (silent_groupStart h.name).append (Control.silent_tagStart fun type htype => ?_)
    rw [Control.eq_inputType_of_ofKind htype]
    exact notMem_inputType h.kind
  have hscript : Silent (if Control.ofKind field.kind = .richText then editorScript field.name
      else "") := by
    split
    · exact silent_editorScript h.name
    · exact silent_empty
  have hrest : Silent (groupRest field mode) := by
    unfold groupRest
    exact ((Control.silent_rest _ h.name hvalue).append (silent_groupEnd h.name)).append hscript
  have hbehind :
      Silent (attributes field mode ++ required field ++ ">" ++ groupRest field mode) := by
    have htag : Silent ">" := silent_of_noSpace (by decide)
    unfold attributes
    exact (((Control.silent_attributes _ h.name hvalue).append (silent_required field)).append
      htag).append hrest
  have hgroup : formGroup field mode ++ t = groupHead field ++ (identity field.name ++
      (attributes field mode ++ required field ++ ">" ++ groupRest field mode ++ t)) := by
    rw [formGroup_eq]
    simp only [String.append_assoc]
  rw [hgroup, identities_append hhead, identities_identity_append h.name, identities_append hbehind]

/-- In a form the names of the fields are read, each in its place. -/
theorem identities_concat {fields : List Field} (h : ∀ field ∈ fields, field.IsPlain)
    (mode : ViewMode) :
    identities (Text.concat (fields.map (formGroup · mode))) = fields.map (·.name) := by
  induction fields with
  | nil => rfl
  | cons field fields ih =>
    obtain ⟨hfield, hfields⟩ := List.forall_mem_cons.1 h
    exact (identities_formGroup_append hfield mode _).trans (congrArg _ (ih hfields))

end Forms

end Markup

end CrudForge
