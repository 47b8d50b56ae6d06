import CrudForge.Field.List
import CrudForge.Proofs.Field.Spelling
import Mathlib.Data.List.Forall2

/-!
# Spellings of lists of fields

The fields of a list are spelled between commas. As no spelling of a field has a comma, a list is
read field by field, and as the names differ, no field takes the place of another.

## Main definitions

* `FieldList.Spelled` — the texts that stand for fields.
-/

namespace CrudForge

open Text

theorem mem_of_mem_insertField {field f : Field} {fs : List Field} (h : f ∈ insertField field fs) :
    f = field ∨ f ∈ fs := by
  induction fs with
  | nil => simpa [insertField] using h
  | cons g fs ih =>
    unfold insertField at h
    split at h
    · exact (List.mem_cons.1 h).imp_right (List.mem_cons_of_mem g)
    · rcases List.mem_cons.1 h with rfl | h
      · simp
      · exact (ih h).imp_right (List.mem_cons_of_mem g)

/-- A field with a new name goes to the end. -/
theorem insertField_of_notMem {field : Field} {fs : List Field}
    (h : field.name ∉ fs.map (·.name)) : insertField field fs = fs ++ [field] := by
  induction fs with
  | nil => rfl
  | cons f fs ih =>
    rw [List.map_cons, List.mem_cons, not_or] at h
    rw [insertField, if_neg (Ne.symm h.1), ih h.2]
    rfl

theorem Field.parseUnder_eq_ok {policy : KindPolicy} {text : String} {field : Field} :
    parseUnder policy text = .ok field ↔
      parse text = .ok field ∧ (policy = .strict → field.kind.isKnown = true) := by
  unfold parseUnder
  cases hparse : parse text with
  | error e => simp
  | ok f =>
    simp only
    split
    · rename_i hstrict
      simp only [Bool.and_eq_true, decide_eq_true_eq, Bool.not_eq_true'] at hstrict
      constructor
      · simp
      · rintro ⟨heq, hknown⟩
        obtain rfl := Except.ok.inj heq
        simp [hknown hstrict.1] at hstrict
    · rename_i hstrict
      constructor
      · intro heq
        obtain rfl := Except.ok.inj heq
        refine ⟨rfl, fun hpolicy => ?_⟩
        simpa [hpolicy] using hstrict
      · exact And.left

namespace FieldList

/-- Fields can be written if each of them can; their names differ anyway. -/
def IsWritable (l : FieldList) : Prop :=
  ∀ field ∈ l.fields, field.IsWritable

instance (l : FieldList) : Decidable l.IsWritable :=
  inferInstanceAs (Decidable (∀ field ∈ l.fields, field.IsWritable))

/-- The texts that stand for fields. -/
inductive Spelled : List Field → String → Prop
  | blank {text : String} (htext : isBlankText text = true) : Spelled [] text
  | fields {fields : List Field} {segments : List String} (hne : fields ≠ [])
      (hfields : List.Forall₂ Field.Spelled fields segments) : Spelled fields (join "," segments)

theorem ext_fields {l l' : FieldList} (h : l.fields = l'.fields) : l = l' := by
  cases l
  cases l'
  simpa using h

section Lists

variable {policy : KindPolicy} {l acc : FieldList} {text : String}

theorem parseSegments_of_spelled {fields : List Field} {segments : List String}
    (hspelled : List.Forall₂ Field.Spelled fields segments)
    (hfields : ∀ field ∈ fields, field.IsWritable)
    (hknown : policy = .strict → ∀ field ∈ fields, field.kind.isKnown = true)
    (hdistinct : ((acc.fields ++ fields).map (·.name)).Nodup) :
    ∃ l, parseSegments policy acc segments = .ok l ∧ l.fields = acc.fields ++ fields := by
  induction hspelled generalizing acc with
  | nil => exact ⟨acc, rfl, by simp⟩
  | @cons field segment fields segments hfield hrest ih =>
    obtain ⟨hwritable, hwritables⟩ := List.forall_mem_cons.1 hfields
    have hparse : Field.parseUnder policy segment = .ok field :=
      Field.parseUnder_eq_ok.2 ⟨Field.parse_of_spelled hwritable hfield,
        fun hpolicy => hknown hpolicy field List.mem_cons_self⟩
    have hnew : field.name ∉ acc.fields.map (·.name) := by
      intro hmem
      rw [List.map_append, List.map_cons, List.nodup_append] at hdistinct
      exact hdistinct.2.2 _ hmem _ List.mem_cons_self rfl
    have hinsert : (acc.insert field).fields = acc.fields ++ [field] := insertField_of_notMem hnew
    have hknown' (hpolicy : policy = .strict) (f : Field) (hf : f ∈ fields) :
        f.kind.isKnown = true := hknown hpolicy f (List.mem_cons_of_mem _ hf)
    have hdistinct' : (((acc.insert field).fields ++ fields).map (·.name)).Nodup := by
      simpa [hinsert] using hdistinct
    obtain ⟨l, hl, hall⟩ := ih hwritables hknown' hdistinct'
    refine ⟨l, ?_, by simpa [hinsert] using hall⟩
    rw [parseSegments, hparse]
    exact hl

theorem noComma_of_spelled {fields : List Field} {segments : List String}
    (hspelled : List.Forall₂ Field.Spelled fields segments)
    (hfields : ∀ field ∈ fields, field.IsWritable) :
    ∀ segment ∈ segments, ',' ∉ segment.toList := by
  induction hspelled with
  | nil => simp
  | cons hfield hrest ih =>
    obtain ⟨hwritable, hwritables⟩ := List.forall_mem_cons.1 hfields
    exact List.forall_mem_cons.2 ⟨Field.noComma_of_spelled hwritable hfield, ih hwritables⟩

theorem exists_colon_mem {fields : List Field} {segments : List String}
    (hspelled : List.Forall₂ Field.Spelled fields segments) (hne : fields ≠ []) :
    ∃ segment ∈ segments, ':' ∈ segment.toList := by
  cases hspelled with
  | nil => exact absurd rfl hne
  | cons hfield hrest => exact ⟨_, List.mem_cons_self, Field.colon_mem_of_spelled hfield⟩

/-- Fields are read from each of their spellings. -/
theorem parse_of_spelled (h : l.IsWritable) (hspelled : Spelled l.fields text)
    (hknown : policy = .strict → ∀ field ∈ l.fields, field.kind.isKnown = true) :
    parse policy text = .ok l := by
  rcases l with ⟨fields, hdistinct⟩
  cases hspelled with
  | blank htext =>
    rw [parse, if_pos htext]
    rfl
  | @fields _ segments hne hfields =>
    have hcommas := noComma_of_spelled hfields h
    have hsegments : segments ≠ [] := by
      rintro rfl
      cases hfields
      exact hne rfl
    have hblank : isBlankText (join "," segments) = false := by
      obtain ⟨segment, hsegment, hcolon⟩ := exists_colon_mem hfields hne
      refine Bool.eq_false_iff.2 fun hblank => ?_
      exact notMem_of_isBlankText hblank (by decide) (mem_join hsegment hcolon)
    have hcut : cut ',' (join "," segments) = segments := cut_join hsegments hcommas
    obtain ⟨l, hl, hall⟩ := parseSegments_of_spelled hfields h hknown
      (show ((empty.fields ++ fields).map (·.name)).Nodup from hdistinct)
    rw [parse, hblank, hcut, if_neg (by simp), hl]
    exact congrArg Except.ok (ext_fields hall)

/-- The text that is written for fields is one of their spellings. -/
theorem spelled_render (l : FieldList) : Spelled l.fields l.render := by
  by_cases hne : l.fields = []
  · rw [render, hne]
    exact .blank rfl
  · refine .fields hne ?_
    rw [List.forall₂_map_right_iff]
    exact List.forall₂_same.2 fun field _ => Field.spelled_render field

theorem isWritable_of_parseSegments {segments : List String}
    (hcommas : ∀ segment ∈ segments, ',' ∉ segment.toList) (hacc : acc.IsWritable)
    (h : parseSegments policy acc segments = .ok l) : l.IsWritable := by
  induction segments generalizing acc with
  | nil =>
    obtain rfl := Except.ok.inj h
    exact hacc
  | cons segment segments ih =>
    obtain ⟨hcomma, hcommas⟩ := List.forall_mem_cons.1 hcommas
    unfold parseSegments at h
    split at h
    · simp at h
    · rename_i field hparse
      have hfield := Field.isWritable_of_parse hcomma (Field.parseUnder_eq_ok.1 hparse).1
      refine ih hcommas (fun f hf => ?_) h
      rcases mem_of_mem_insertField hf with rfl | hf
      · exact hfield
      · exact hacc f hf

/-- What is read can be written. -/
theorem isWritable_of_parse (h : parse policy text = .ok l) : l.IsWritable := by
  have hempty : empty.IsWritable := by simp [IsWritable, empty]
  unfold parse at h
  split at h
  · obtain rfl := Except.ok.inj h
    exact hempty
  · exact isWritable_of_parseSegments (fun _ => notMem_of_mem_cut) hempty h

/-- Exactly the fields that can be written are read from a text, and then from all spellings. -/
theorem parse_spellings :
    (∀ policy text l, parse policy text = .ok l → l.names.Nodup ∧ l.IsWritable) ∧
    (∀ l : FieldList, l.IsWritable → parse .permissive l.render = .ok l ∧
      ((∀ field ∈ l.fields, field.kind.isKnown = true) → parse .strict l.render = .ok l)) ∧
    ∀ (l : FieldList) (text : String), l.IsWritable → Spelled l.fields text →
      parse .permissive text = .ok l ∧
        ((∀ field ∈ l.fields, field.kind.isKnown = true) → parse .strict text = .ok l) := by
  have hspellings : ∀ (l : FieldList) (text : String), l.IsWritable → Spelled l.fields text →
      parse .permissive text = .ok l ∧
        ((∀ field ∈ l.fields, field.kind.isKnown = true) → parse .strict text = .ok l) :=
    fun l text h hspelled => ⟨parse_of_spelled h hspelled nofun,
      fun hknown => parse_of_spelled h hspelled fun _ => hknown⟩
  refine ⟨fun policy text l h => ⟨l.distinct, isWritable_of_parse h⟩, fun l h => ?_, hspellings⟩
  exact hspellings l l.render h (spelled_render l)

end Lists

/-- A title with a custom kind and rules that hold other separators, and a name without rules. -/
def article : FieldList where
  fields := [
    { name := "main title", kind := .custom "T:a&b", rules := ["in:a|b", "max:9"] },
    { name := "author", kind := .known .shortText, rules := [] }]
  distinct := by decide

/-- All looseness at once: blanks, blank rules and an idle bar. -/
theorem parse_spellings_article :
    article.IsWritable ∧
      Spelled article.fields " main title :\tT:a&b | in:a|b& & max:9 ,author: string |" ∧
      parse .permissive " main title :\tT:a&b | in:a|b& & max:9 ,author: string |" =
        .ok article := by
  have hwritable : article.IsWritable := by decide
  have hrules : SpelledRules ["in:a|b", "max:9"] [" in:a|b", " ", " max:9 "] :=
    .rule ⟨" ", "", by decide⟩ (.blank (by decide) (.rule ⟨" ", " ", by decide⟩ .nil))
  have hidle : SpelledRules [] [""] := .blank (by decide) .nil
  have htitle : Field.Spelled ⟨"main title", .custom "T:a&b", ["in:a|b", "max:9"]⟩
      " main title :\tT:a&b | in:a|b& & max:9 " := by
    have hname : Padded "main title" " main title " := ⟨" ", " ", by decide⟩
    have hkind : Padded "T:a&b" "\tT:a&b " := ⟨"\t", " ", by decide⟩
    exact .ruled hname hkind hrules ⟨"", "", by decide⟩
  have hauthor : Field.Spelled ⟨"author", .known .shortText, []⟩ "author: string |" := by
    have hkind : Padded "string" " string " := ⟨" ", " ", by decide⟩
    exact .ruled (padded_self "author") hkind hidle ⟨"", "", by decide⟩
  have hspelled : Spelled article.fields
      " main title :\tT:a&b | in:a|b& & max:9 ,author: string |" := by
    have htext : join "," [" main title :\tT:a&b | in:a|b& & max:9 ", "author: string |"] =
        " main title :\tT:a&b | in:a|b& & max:9 ,author: string |" := by decide
    rw [← htext]
    exact .fields (List.cons_ne_nil _ _) (.cons htitle (.cons hauthor .nil))
  exact ⟨hwritable, hspelled, (parse_spellings.2.2 article _ hwritable hspelled).1⟩

end FieldList

end CrudForge
