import CrudForge.Proofs.Field.Grammar
import Mathlib.Data.Finset.Dedup
import Mathlib.Data.Finset.Card

/-!
# Specifications one behind the other

Two specifications with a comma between them are read as the fields of the one followed by those of
the other. A name stands where it first appears, and its field is the last of that name; the error
of the first part goes before that of the second.

## Main definitions

* `FieldList.insertAll` — fields inserted one after the other.
* `FieldList.Reads` — the fields that are read from segments, one from each.
-/

namespace CrudForge

open Text

namespace FieldList

/-! ## Inserting many fields -/

/-- Inserts `fields` one after the other. -/
def insertAll (l : FieldList) (fields : List Field) : FieldList :=
  fields.foldl insert l

section Insert

variable (l : FieldList) (fields : List Field) (field : Field) (name : String)

@[simp] theorem insertAll_nil : l.insertAll [] = l := rfl

@[simp] theorem insertAll_concat :
    l.insertAll (fields ++ [field]) = (l.insertAll fields).insert field := by
  simp [insertAll]

@[simp] theorem names_empty : empty.names = [] := rfl

@[simp] theorem get?_empty : empty.get? name = none := rfl

/-- Names are put behind those that are there, each where it first appears. -/
theorem names_insertAll : (l.insertAll fields).names =
    l.names ++ (empty.insertAll fields).names.filter (· ∉ l.names) := by
  -- from the last field on: it adds its name unless `l` or a field before it has the name
  induction fields using List.reverseRecOn with
  | nil => simp
  | append_singleton fields field ih =>
    rw [insertAll_concat, insertAll_concat, names_insert, names_insert, ih]
    by_cases hold : field.name ∈ l.names <;>
      by_cases hnew : field.name ∈ (empty.insertAll fields).names <;> simp [hold, hnew]

/-- A later field hides an earlier one of its name. -/
theorem get?_insertAll : (l.insertAll fields).get? name =
    ((empty.insertAll fields).get? name).or (l.get? name) := by
  induction fields using List.reverseRecOn with
  | nil => simp
  | append_singleton fields field ih =>
    rw [insertAll_concat, insertAll_concat, get?_insert, get?_insert, ih]
    split <;> rfl

theorem names_insertAll_empty :
    (empty.insertAll fields).names = (fields.map (·.name)).eraseDups := by
  induction fields using List.reverseRecOn with
  | nil => rfl
  | append_singleton fields field ih =>
    rw [insertAll_concat, names_insert, ih, List.map_append, List.eraseDups_append]
    generalize fields.map (·.name) = names
    by_cases hmem : field.name ∈ names <;>
      simp [List.removeAll, List.eraseDups_cons, hmem]

theorem get?_insertAll_empty :
    (empty.insertAll fields).get? name = fields.reverse.find? (·.name = name) := by
  induction fields using List.reverseRecOn with
  | nil => rfl
  | append_singleton fields field ih =>
    rw [insertAll_concat, get?_insert, ih, List.reverse_append]
    by_cases hname : field.name = name
    · simp [hname]
    · simp [hname, Ne.symm hname]

end Insert

/-- There are as many fields as different names. -/
theorem size_eq_card (l : FieldList) : l.size = l.names.toFinset.card := by
  have hcard : l.names.toFinset.card = l.names.length := List.toFinset_card_of_nodup l.distinct
  rw [hcard, size, names, List.length_map]

/-! ## Reading one part after the other -/

section Parts

variable {policy : KindPolicy} {acc l m : FieldList} {s t : String} {e : FieldError}

/-- `fields` are read from `segments`, one from each. -/
def Reads (policy : KindPolicy) (segments : List String) (fields : List Field) : Prop :=
  List.Forall₂ (fun segment field => Field.parseUnder policy segment = .ok field) segments fields

/-- Reading inserts what is read from each segment. -/
theorem parseSegments_eq_ok_iff {segments : List String} :
    parseSegments policy acc segments = .ok l ↔
      ∃ fields, Reads policy segments fields ∧ l = acc.insertAll fields := by
  induction segments generalizing acc with
  | nil => simp [parseSegments, Reads, eq_comm]
  | cons segment segments ih =>
    rw [parseSegments]
    constructor
    · intro h
      cases hsegment : Field.parseUnder policy segment with
      | error e => simp [hsegment] at h
      | ok field =>
        rw [hsegment] at h
        obtain ⟨fields, hfields, rfl⟩ := ih.1 h
        exact ⟨field :: fields, .cons hsegment hfields, rfl⟩
    · rintro ⟨_, hfields, rfl⟩
      cases hfields with
      | cons hsegment hfields =>
        rw [hsegment]
        exact ih.2 ⟨_, hfields, rfl⟩

theorem parseSegments_append (as bs : List String) :
    parseSegments policy acc (as ++ bs) =
      match parseSegments policy acc as with
      | .error e => .error e
      | .ok l => parseSegments policy l bs := by
  induction as generalizing acc with
  | nil => rfl
  | cons a as ih =>
    rw [List.cons_append, parseSegments, parseSegments]
    cases Field.parseUnder policy a with
    | error e => rfl
    | ok field => exact ih

/-- A specification that is not blank is its segments, whatever stands behind them. -/
theorem parse_comma (hs : isBlankText s = false) (t : String) :
    parse policy (s ++ "," ++ t) =
      match parse policy s with
      | .error e => .error e
      | .ok l => parseSegments policy l (cut ',' t) := by
  have hcut : cut ',' (s ++ "," ++ t) = cut ',' s ++ cut ',' t := cut_append_sep ',' s t
  rw [parse_of_not_isBlankText (by simp [hs]), parse_of_not_isBlankText hs, hcut,
    parseSegments_append]

/-- Both parts are read: the fields of the second are inserted into those of the first. -/
theorem parse_comma_of_ok (hs : isBlankText s = false) (ht : isBlankText t = false)
    (hl : parse policy s = .ok l) (hm : parse policy t = .ok m) :
    ∃ fields, parse policy (s ++ "," ++ t) = .ok (l.insertAll fields) ∧
      m = empty.insertAll fields := by
  rw [parse_of_not_isBlankText ht] at hm
  obtain ⟨fields, hfields, rfl⟩ := parseSegments_eq_ok_iff.1 hm
  rw [parse_comma hs, hl]
  exact ⟨fields, parseSegments_eq_ok_iff.2 ⟨fields, hfields, rfl⟩, rfl⟩

theorem parse_comma_of_error_right (hs : isBlankText s = false) (hl : parse policy s = .ok l)
    (ht : parse policy t = .error e) : parse policy (s ++ "," ++ t) = .error e := by
  rw [parse_comma hs, hl]
  exact parseSegments_eq_error_iff.2 (parse_eq_error_iff.1 ht).2

/-- In a specification a name stands where it first appears, and its field is the last. -/
theorem exists_reads (hs : isBlankText s = false) (hl : parse policy s = .ok l) :
    ∃ segments fields, Separates ',' s segments ∧ Reads policy segments fields ∧
      l.names = (fields.map (·.name)).eraseDups ∧
      ∀ name, l.get? name = fields.reverse.find? (·.name = name) := by
  rw [parse_of_not_isBlankText hs] at hl
  obtain ⟨fields, hfields, rfl⟩ := parseSegments_eq_ok_iff.1 hl
  exact ⟨_, fields, separates_cut ',' s, hfields, names_insertAll_empty fields,
    get?_insertAll_empty fields⟩

/-- Specifications with a comma between them are read as one, and a name keeps its first place and
takes its last field. The first error decides. -/
theorem parse_merges (hs : isBlankText s = false) (ht : isBlankText t = false) :
    (∀ l m, parse policy s = .ok l → parse policy t = .ok m →
      ∃ both, parse policy (s ++ "," ++ t) = .ok both ∧
        both.names = l.names ++ m.names.filter (· ∉ l.names) ∧
        (∀ name, both.get? name = (m.get? name).or (l.get? name)) ∧
        both.size = (l.names.toFinset ∪ m.names.toFinset).card) ∧
    (∀ e, parse policy s = .error e → parse policy (s ++ "," ++ t) = .error e) ∧
    (∀ l e, parse policy s = .ok l → parse policy t = .error e →
      parse policy (s ++ "," ++ t) = .error e) ∧
    ∀ l, parse policy s = .ok l → ∃ segments fields, Separates ',' s segments ∧
      Reads policy segments fields ∧ l.names = (fields.map (·.name)).eraseDups ∧
      ∀ name, l.get? name = fields.reverse.find? (·.name = name) := by
  refine ⟨fun l m hl hm => ?_, fun e he => ?_, fun l e hl he => ?_, fun l => exists_reads hs⟩
  · obtain ⟨fields, hboth, rfl⟩ := parse_comma_of_ok hs ht hl hm
    have hnames := names_insertAll l fields
    refine ⟨_, hboth, hnames, get?_insertAll l fields, ?_⟩
    rw [size_eq_card, hnames]
    congr 1
    ext name
    by_cases hname : name ∈ l.names <;> simp [hname]
  · rw [parse_comma hs, he]
  · exact parse_comma_of_error_right hs hl he

end Parts

/-- Both parts define `a` and `b`: the places are those of the first part, the fields those of the
second, without the rule that was there. -/
theorem parse_merges_redefined :
    isBlankText "b:string|required,a:text" = false ∧ isBlankText "a:date,c:file,b:time" = false ∧
      ∃ both, parse .strict "b:string|required,a:text,a:date,c:file,b:time" = .ok both ∧
        both.names = ["b", "a", "c"] ∧ both.get? "b" = some ⟨"b", .known .time, []⟩ := by
  obtain ⟨hboth, -, -, -⟩ := @parse_merges .strict "b:string|required,a:text"
    "a:date,c:file,b:time" (by decide) (by decide)
  have hfirst : parse .strict "b:string|required,a:text" =
      .ok ⟨[⟨"b", .known .shortText, ["required"]⟩, ⟨"a", .known .longText, []⟩], by decide⟩ := by
    rfl
  have hsecond : parse .strict "a:date,c:file,b:time" =
      .ok ⟨[⟨"a", .known .date, []⟩, ⟨"c", .known .file, []⟩, ⟨"b", .known .time, []⟩],
        by decide⟩ := by
    rfl
  obtain ⟨both, hparse, hnames, hget, -⟩ := hboth _ _ hfirst hsecond
  refine ⟨by decide, by decide, both, hparse, hnames.trans (by decide), ?_⟩
  rw [hget]
  decide

end FieldList

end CrudForge
