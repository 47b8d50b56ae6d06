import CrudForge.Proofs.Field.SpelledList

/-!
# The grammar of specifications

Which specifications are read, said without reading them: a segment has a name in front of its
first colon and a kind from there to the first bar, neither of them blank, and a strict policy wants
a keyword for the kind. A segment that is not of this form has one fault, and of several faulty
segments the first decides.

## Main definitions

* `Field.Splits` — the name and the kind of a segment, as they are written.
* `Field.Grammatical` — the segments that are read.
* `Field.Faulty` — the segments that are not, with the error of each.
-/

namespace CrudForge

open Text

namespace Field

/-! ## Segments -/

/-- `name` stands in front of the first colon of `segment`, and `kind` from there to the first bar,
or to the end if there is none. -/
structure Splits (segment name kind : String) : Prop where
  noColon : ':' ∉ name.toList
  noBar : '|' ∉ kind.toList
  eq : segment = name ++ ":" ++ kind ∨ ∃ rules, segment = name ++ ":" ++ (kind ++ "|" ++ rules)

/-- A segment that is read has a name and a kind, and under a strict policy the kind has a
keyword. -/
inductive Grammatical (policy : KindPolicy) (segment : String) : Prop
  | intro {name kind : String} (hsplits : Splits segment name kind)
      (hname : isBlankText name = false) (hkind : isBlankText kind = false)
      (hknown : policy = .strict → ∃ known : Known, known.keyword = trim kind)

/-- What is wrong with a segment. A fault counts only if the segment has none of those above it. -/
inductive Faulty (policy : KindPolicy) (segment : String) : FieldError → Prop
  | noSeparator (hcolon : ':' ∉ segment.toList) :
      Faulty policy segment (.malformed (trim segment) .noSeparator)
  | emptyName {name kind : String} (hsplits : Splits segment name kind)
      (hname : isBlankText name = true) :
      Faulty policy segment (.malformed (trim segment) .emptyName)
  | emptyKind {name kind : String} (hsplits : Splits segment name kind)
      (hname : isBlankText name = false) (hkind : isBlankText kind = true) :
      Faulty policy segment (.malformed (trim segment) .emptyKind)
  | unknownKind {name kind : String} (hsplits : Splits segment name kind)
      (hname : isBlankText name = false) (hkind : isBlankText kind = false)
      (hpolicy : policy = .strict) (hunknown : ∀ known : Known, known.keyword ≠ trim kind) :
      Faulty policy segment (.unknownKind (trim name) (trim kind))

section Segments

variable {policy : KindPolicy} {segment name kind : String} {e : FieldError}

/-- With a colon there is a name and a kind, of whatever characters. -/
theorem exists_splits (h : ':' ∈ segment.toList) : ∃ name kind, Splits segment name kind := by
  obtain ⟨name, rest, hname⟩ : ∃ name rest, cutFirst? ':' segment = some (name, rest) := by
    cases hcut : cutFirst? ':' segment with
    | none => exact absurd h (notMem_of_cutFirst?_eq_none hcut)
    | some parts => exact ⟨parts.1, parts.2, rfl⟩
  obtain ⟨rfl, hcolon⟩ := cutFirst?_eq_some hname
  cases hbar : cutFirst? '|' rest with
  | none => exact ⟨name, rest, hcolon, notMem_of_cutFirst?_eq_none hbar, .inl rfl⟩
  | some parts =>
    obtain ⟨kind, rules⟩ := parts
    obtain ⟨rfl, hkind⟩ := cutFirst?_eq_some hbar
    exact ⟨name, kind, hcolon, hkind, .inr ⟨rules, rfl⟩⟩

/-- A segment is read or has a fault. -/
theorem grammatical_or_faulty (policy : KindPolicy) (segment : String) :
    Grammatical policy segment ∨ ∃ e, Faulty policy segment e := by
  by_cases hcolon : ':' ∈ segment.toList
  · obtain ⟨name, kind, hsplits⟩ := exists_splits hcolon
    cases hname : isBlankText name with
    | true => exact .inr ⟨_, .emptyName hsplits hname⟩
    | false =>
      cases hkind : isBlankText kind with
      | true => exact .inr ⟨_, .emptyKind hsplits hname hkind⟩
      | false =>
        by_cases hknown : policy = .strict → ∃ known : Known, known.keyword = trim kind
        · exact .inl (.intro hsplits hname hkind hknown)
        · rw [Classical.not_imp, not_exists] at hknown
          exact .inr ⟨_, .unknownKind hsplits hname hkind hknown.1 hknown.2⟩
  · exact .inr ⟨_, .noSeparator hcolon⟩

theorem parse_of_noColon (h : ':' ∉ segment.toList) :
    parse segment = .error (.malformed (trim segment) .noSeparator) := by
  have hcut : cutFirst? ':' (trim segment) = none :=
    cutFirst?_of_notMem (notMem_trim (by decide) h)
  simp only [parse, hcut]

/-- Trimming the segment leaves nothing but blanks of its kind out. -/
theorem trim_cutKind_trimEnd {rest : String} (hbar : '|' ∉ kind.toList)
    (h : rest = kind ∨ ∃ rules, rest = kind ++ "|" ++ rules) :
    trim (cutKind (trimEnd rest)).1 = trim kind := by
  rcases h with rfl | ⟨rules, rfl⟩
  · have hpadded := padded_trimEnd rest
    have hend : '|' ∉ (trimEnd rest).toList := by
      rwa [← mem_toList_of_padded hpadded (by decide)]
    rw [cutKind_of_notMem hend, trim_of_padded hpadded]
  · rw [cutKind_trimEnd hbar]

/-- A segment is read part by part. -/
theorem parse_of_splits (h : Splits segment name kind) :
    (isBlankText name = true → parse segment = .error (.malformed (trim segment) .emptyName)) ∧
    (isBlankText name = false → isBlankText kind = true →
      parse segment = .error (.malformed (trim segment) .emptyKind)) ∧
    (isBlankText name = false → isBlankText kind = false →
      ∃ rules, parse segment = .ok ⟨trim name, .ofKeyword (trim kind), rules⟩) := by
  obtain ⟨rest, rfl, hrest⟩ : ∃ rest, segment = name ++ ":" ++ rest ∧
      (rest = kind ∨ ∃ rules, rest = kind ++ "|" ++ rules) := by
    rcases h.eq with heq | ⟨rules, heq⟩
    · exact ⟨kind, heq, .inl rfl⟩
    · exact ⟨_, heq, .inr ⟨rules, rfl⟩⟩
  -- with or without rules, the kind that is read is `kind` without its blanks
  rw [parse_append h.noColon, trim_cutKind_trimEnd h.noBar hrest]
  simp only [trim_eq_empty_iff]
  refine ⟨fun hname => ?_, fun hname hkind => ?_, fun hname hkind => ?_⟩
  · simp [hname]
  · simp [hname, hkind]
  · simp [hname, hkind]

theorem isKnown_ofKeyword {text : String} :
    (Kind.ofKeyword text).isKnown = true ↔ ∃ known : Known, known.keyword = text := by
  constructor
  · intro h
    cases hkind : Kind.ofKeyword text with
    | known known =>
      have htext := Kind.keyword_ofKeyword text
      rw [hkind] at htext
      exact ⟨known, htext⟩
    | custom other => simp [hkind, Kind.isKnown] at h
  · rintro ⟨known, rfl⟩
    simp [Kind.isKnown]

theorem exists_parseUnder (h : Grammatical policy segment) :
    ∃ field, parseUnder policy segment = .ok field := by
  obtain ⟨hsplits, hname, hkind, hknown⟩ := h
  obtain ⟨rules, hparse⟩ := (parse_of_splits hsplits).2.2 hname hkind
  exact ⟨_, parseUnder_eq_ok.2 ⟨hparse, fun hpolicy => isKnown_ofKeyword.2 (hknown hpolicy)⟩⟩

theorem parseUnder_of_faulty (h : Faulty policy segment e) :
    parseUnder policy segment = .error e := by
  cases h with
  | noSeparator hcolon => rw [parseUnder, parse_of_noColon hcolon]
  | emptyName hsplits hname => rw [parseUnder, (parse_of_splits hsplits).1 hname]
  | emptyKind hsplits hname hkind =>
    rw [parseUnder, (parse_of_splits hsplits).2.1 hname hkind]
  | @unknownKind name kind hsplits hname hkind hpolicy hunknown =>
    obtain ⟨rules, hparse⟩ := (parse_of_splits hsplits).2.2 hname hkind
    have hcustom : Kind.ofKeyword (trim kind) = .custom (trim kind) := Kind.ofKeyword_of_ne hunknown
    simp [parseUnder, hparse, hpolicy, hcustom, Kind.isKnown, Kind.keyword]

/-- Exactly the grammatical segments are read. -/
theorem exists_parseUnder_iff :
    (∃ field, parseUnder policy segment = .ok field) ↔ Grammatical policy segment := by
  refine ⟨fun ⟨field, hfield⟩ => ?_, exists_parseUnder⟩
  rcases grammatical_or_faulty policy segment with h | ⟨e, h⟩
  · exact h
  · simp [parseUnder_of_faulty h] at hfield

/-- The others are refused with their fault. -/
theorem parseUnder_eq_error_iff :
    parseUnder policy segment = .error e ↔ Faulty policy segment e := by
  refine ⟨fun hparse => ?_, parseUnder_of_faulty⟩
  rcases grammatical_or_faulty policy segment with h | ⟨e', h⟩
  · obtain ⟨field, hfield⟩ := exists_parseUnder h
    simp [hfield] at hparse
  · obtain rfl : e' = e := Except.error.inj ((parseUnder_of_faulty h).symm.trans hparse)
    exact h

end Segments

end Field

namespace FieldList

/-! ## Specifications -/

section Specifications

variable {policy : KindPolicy} {acc l : FieldList} {text : String} {e : FieldError}

/-- The first of `segments` that has a fault has that of `e`. -/
def FirstFault (policy : KindPolicy) (segments : List String) (e : FieldError) : Prop :=
  ∃ before segment after, segments = before ++ segment :: after ∧
    (∀ other ∈ before, Field.Grammatical policy other) ∧ Field.Faulty policy segment e

theorem firstFault_cons {segment : String} {segments : List String} :
    FirstFault policy (segment :: segments) e ↔ Field.Faulty policy segment e ∨
      Field.Grammatical policy segment ∧ FirstFault policy segments e := by
  constructor
  · rintro ⟨before, faulty, after, hsegments, hbefore, hfaulty⟩
    cases before with
    | nil =>
      obtain ⟨rfl, rfl⟩ := List.cons.inj hsegments
      exact .inl hfaulty
    | cons first before =>
      obtain ⟨rfl, rfl⟩ := List.cons.inj hsegments
      obtain ⟨hfirst, hbefore⟩ := List.forall_mem_cons.1 hbefore
      exact .inr ⟨hfirst, before, faulty, after, rfl, hbefore, hfaulty⟩
  · rintro (hfaulty | ⟨hfirst, before, faulty, after, rfl, hbefore, hfaulty⟩)
    · exact ⟨[], segment, segments, rfl, by simp, hfaulty⟩
    · exact ⟨segment :: before, faulty, after, rfl, List.forall_mem_cons.2 ⟨hfirst, hbefore⟩,
        hfaulty⟩

theorem exists_parseSegments_iff {segments : List String} :
    (∃ l, parseSegments policy acc segments = .ok l) ↔
      ∀ segment ∈ segments, Field.Grammatical policy segment := by
  induction segments generalizing acc with
  | nil => simp [parseSegments]
  | cons segment segments ih =>
    rw [List.forall_mem_cons, ← Field.exists_parseUnder_iff, parseSegments]
    cases Field.parseUnder policy segment with
    | error e => simp
    | ok field => simpa using ih

/-- What was read before makes no difference to the error. -/
theorem parseSegments_eq_error_iff {segments : List String} :
    parseSegments policy acc segments = .error e ↔ FirstFault policy segments e := by
  induction segments generalizing acc with
  | nil => simp [parseSegments, FirstFault]
  | cons segment segments ih =>
    rw [firstFault_cons, ← Field.exists_parseUnder_iff, ← Field.parseUnder_eq_error_iff,
      parseSegments]
    cases Field.parseUnder policy segment with
    | error e' => simp
    | ok field => simpa using ih

theorem parse_of_isBlankText (h : isBlankText text = true) : parse policy text = .ok empty := by
  rw [parse, if_pos h]

theorem parse_of_not_isBlankText (h : isBlankText text = false) :
    parse policy text = parseSegments policy empty (cut ',' text) := by
  rw [parse, if_neg (by simp [h])]

theorem exists_parse_iff : (∃ l, parse policy text = .ok l) ↔
    isBlankText text = true ∨ ∀ segment ∈ cut ',' text, Field.Grammatical policy segment := by
  cases hblank : isBlankText text with
  | true => simp [parse_of_isBlankText hblank]
  | false => simp [parse_of_not_isBlankText hblank, exists_parseSegments_iff]

theorem parse_eq_error_iff : parse policy text = .error e ↔
    isBlankText text = false ∧ FirstFault policy (cut ',' text) e := by
  cases hblank : isBlankText text with
  | true => simp [parse_of_isBlankText hblank]
  | false => simp [parse_of_not_isBlankText hblank, parseSegments_eq_error_iff]

theorem parseSegments_of_strict {segments : List String}
    (h : parseSegments .strict acc segments = .ok l) :
    parseSegments .permissive acc segments = .ok l := by
  induction segments generalizing acc with
  | nil => exact h
  | cons segment segments ih =>
    rw [parseSegments] at h ⊢
    cases hstrict : Field.parseUnder .strict segment with
    | error e => simp [hstrict] at h
    | ok field =>
      have hpermissive : Field.parseUnder .permissive segment = .ok field :=
        Field.parseUnder_eq_ok.2
          ⟨(Field.parseUnder_eq_ok.1 hstrict).1, fun hpolicy => absurd hpolicy (by decide)⟩
      rw [hstrict] at h
      rw [hpermissive]
      exact ih h

/-- What a strict policy accepts is read in the same way under a permissive one. -/
theorem parse_of_strict (h : parse .strict text = .ok l) : parse .permissive text = .ok l := by
  cases hblank : isBlankText text with
  | true => rwa [parse_of_isBlankText hblank] at h ⊢
  | false =>
    rw [parse_of_not_isBlankText hblank] at h ⊢
    exact parseSegments_of_strict h

/-- A specification is read if and only if it is blank or all its segments are grammatical, and else
the first faulty segment decides about the error. A strict policy accepts less and changes
nothing of what it accepts. -/
theorem parse_grammar (text : String) :
    (∃ segments, Separates ',' text segments ∧ ∀ policy,
      ((∃ l, parse policy text = .ok l) ↔ isBlankText text = true ∨
        ∀ segment ∈ segments, Field.Grammatical policy segment) ∧
      (isBlankText text = true → parse policy text = .ok empty) ∧
      ∀ e, parse policy text = .error e ↔
        isBlankText text = false ∧ FirstFault policy segments e) ∧
    (∀ l, parse .strict text = .ok l → parse .permissive text = .ok l) ∧
    ∀ e, parse .permissive text = .error e → ∃ e', parse .strict text = .error e' := by
  refine ⟨⟨cut ',' text, separates_cut ',' text, fun policy => ?_⟩, fun _ => parse_of_strict,
    fun e herror => ?_⟩
  · exact ⟨exists_parse_iff, parse_of_isBlankText, fun _ => parse_eq_error_iff⟩
  · cases hstrict : parse .strict text with
    | error e' => exact ⟨e', rfl⟩
    | ok l => simp [parse_of_strict hstrict] at herror

end Specifications

/-- A custom kind with a bar behind it comes before a segment without a colon and before a new
definition of its own name; a permissive policy gets to the second fault. -/
theorem parse_grammar_colour :
    parse .strict "a:string, c : Text |x:y,b,c:text" = .error (.unknownKind "c" "Text") ∧
      parse .permissive "a:string, c : Text |x:y,b,c:text" =
        .error (.malformed "b" .noSeparator) := by
  obtain ⟨⟨segments, hsegments, hparse⟩, -, -⟩ := parse_grammar "a:string, c : Text |x:y,b,c:text"
  have hcut : segments = ["a:string", " c : Text |x:y", "b", "c:text"] :=
    hsegments.eq_cut.trans (by decide)
  have hstring (policy : KindPolicy) : Field.Grammatical policy "a:string" :=
    @Field.Grammatical.intro _ _ "a" "string" ⟨by decide, by decide, .inl (by decide)⟩
      (by decide) (by decide) fun _ => ⟨.shortText, by decide⟩
  have hsplits : Field.Splits " c : Text |x:y" " c " " Text " :=
    ⟨by decide, by decide, .inr ⟨"x:y", by decide⟩⟩
  constructor
  · refine ((hparse .strict).2.2 _).2 ⟨by decide, ["a:string"], " c : Text |x:y", _, hcut, ?_, ?_⟩
    · simpa using hstring .strict
    · exact .unknownKind hsplits (by decide) (by decide) rfl fun known => by cases known <;> decide
  · have hcustom : Field.Grammatical .permissive " c : Text |x:y" :=
      .intro hsplits (by decide) (by decide) fun hpolicy => absurd hpolicy (by decide)
    refine ((hparse .permissive).2.2 _).2
      ⟨by decide, ["a:string", " c : Text |x:y"], "b", _, hcut, ?_, .noSeparator (by decide)⟩
    simpa using ⟨hstring .permissive, hcustom⟩

end FieldList

end CrudForge
