import CrudForge.Field.Basic
import CrudForge.Proofs.Text.Trim

/-!
# Spellings of fields

What is read from a specification can be written again: its names, kinds and rules are words without
the separators at which they would be cut. Such fields have many spellings, with blanks around
every part, blank rules and a bar in front of no rules, and all of them are read as these fields.

## Main definitions

* `Field.IsWritable` — a field whose parts keep together.
* `Field.Spelled` — the texts that stand for a field.
-/

namespace CrudForge

open Text

/-! ## Fields that can be written -/

/-- A custom kind can be written if it is a word that no other kind has. -/
def Kind.IsWritable : Kind → Prop
  | .known _ => True
  | .custom text =>
    IsWord text ∧ ',' ∉ text.toList ∧ '|' ∉ text.toList ∧ ∀ known : Known, known.keyword ≠ text

/-- A rule can be written if it is a word that is not cut. -/
structure IsWritableRule (rule : String) : Prop where
  word : IsWord rule
  noComma : ',' ∉ rule.toList
  noAmpersand : '&' ∉ rule.toList

/-- A field can be written if its parts can. -/
structure Field.IsWritable (field : Field) : Prop where
  name : IsWord field.name
  noComma : ',' ∉ field.name.toList
  noColon : ':' ∉ field.name.toList
  kind : field.kind.IsWritable
  rules : ∀ rule ∈ field.rules, IsWritableRule rule

instance : DecidablePred Kind.IsWritable
  | .known _ => .isTrue trivial
  | .custom text =>
    decidable_of_iff (IsWord text ∧ ',' ∉ text.toList ∧ '|' ∉ text.toList ∧
        ∀ known ∈ Known.all, known.keyword ≠ text) <| by
      simp [Kind.IsWritable, Known.mem_all]

instance (rule : String) : Decidable (IsWritableRule rule) :=
  decidable_of_iff (IsWord rule ∧ ',' ∉ rule.toList ∧ '&' ∉ rule.toList)
    ⟨fun h => ⟨h.1, h.2.1, h.2.2⟩, fun h => ⟨h.1, h.2, h.3⟩⟩

instance (field : Field) : Decidable field.IsWritable :=
  decidable_of_iff (IsWord field.name ∧ ',' ∉ field.name.toList ∧ ':' ∉ field.name.toList ∧
      field.kind.IsWritable ∧ ∀ rule ∈ field.rules, IsWritableRule rule)
    ⟨fun h => ⟨h.1, h.2.1, h.2.2.1, h.2.2.2.1, h.2.2.2.2⟩, fun h => ⟨h.1, h.2, h.3, h.4, h.5⟩⟩

/-! ## Spellings -/

/-- The pieces between the ampersands: the rules with blanks around them, and blank ones. -/
inductive SpelledRules : List String → List String → Prop
  | nil : SpelledRules [] []
  | blank {rules pieces : List String} {piece : String} (hpiece : isBlankText piece = true)
      (hrest : SpelledRules rules pieces) : SpelledRules rules (piece :: pieces)
  | rule {rules pieces : List String} {rule piece : String} (hpiece : Padded rule piece)
      (hrest : SpelledRules rules pieces) : SpelledRules (rule :: rules) (piece :: pieces)

/-- The texts that stand for a field. Without rules it needs no bar. -/
inductive Field.Spelled (field : Field) : String → Prop
  | plain {name kind text : String} (hname : Padded field.name name)
      (hkind : Padded field.kind.keyword kind) (hrules : field.rules = [])
      (htext : Padded (name ++ ":" ++ kind) text) : Spelled field text
  | ruled {name kind text : String} {pieces : List String} (hname : Padded field.name name)
      (hkind : Padded field.kind.keyword kind) (hrules : SpelledRules field.rules pieces)
      (htext : Padded (name ++ ":" ++ (kind ++ "|" ++ join "&" pieces)) text) :
      Spelled field text

/-! ## Reading a field -/

namespace Kind

theorem ofKeyword_of_ne {text : String} (h : ∀ known : Known, known.keyword ≠ text) :
    ofKeyword text = custom text := by
  have hnone : Known.all.find? (·.keyword = text) = none := by
    refine List.find?_eq_none.2 fun known _ => ?_
    simpa using h known
  rw [ofKeyword, hnone]

theorem ne_of_ofKeyword {text text' : String} (h : ofKeyword text = custom text')
    (known : Known) : known.keyword ≠ text' := by
  have htext : text = text' := by simpa [h, keyword] using (keyword_ofKeyword text).symm
  rintro rfl
  rw [htext, ofKeyword_keyword] at h
  cases h

variable {kind : Kind}

theorem IsWritable.ofKeyword_keyword (h : kind.IsWritable) : ofKeyword kind.keyword = kind := by
  cases kind with
  | known known => exact Kind.ofKeyword_keyword known
  | custom text => exact ofKeyword_of_ne h.2.2.2

theorem IsWritable.word (h : kind.IsWritable) : IsWord kind.keyword := by
  cases kind with
  | known known => cases known <;> exact ⟨by decide, by decide⟩
  | custom text => exact h.1

/-- The separators that may stand behind a kind are not in it. -/
theorem IsWritable.notMem {sep : Char} (h : kind.IsWritable) (hsep : sep = ',' ∨ sep = '|') :
    sep ∉ kind.keyword.toList := by
  cases kind with
  | known known => obtain rfl | rfl := hsep <;> cases known <;> decide
  | custom text =>
    obtain rfl | rfl := hsep
    · exact h.2.1
    · exact h.2.2.1

/-- What is read as a kind can be written if its text can. -/
theorem isWritable_ofKeyword {text : String} (hword : IsWord text) (hcomma : ',' ∉ text.toList)
    (hbar : '|' ∉ text.toList) : (ofKeyword text).IsWritable := by
  cases hkind : ofKeyword text with
  | known known => trivial
  | custom text' =>
    have htext : text = text' := by simpa [hkind, keyword] using (keyword_ofKeyword text).symm
    subst htext
    exact ⟨hword, hcomma, hbar, ne_of_ofKeyword hkind⟩

end Kind

namespace SpelledRules

variable {rules pieces : List String}

/-- What is blank is dropped, and what is padded is trimmed. -/
theorem filter_trim (h : SpelledRules rules pieces) (hrules : ∀ rule ∈ rules, IsWritableRule rule) :
    (pieces.map trim).filter (· ≠ "") = rules := by
  induction h with
  | nil => rfl
  | blank hpiece hrest ih => simpa [trim_of_isBlankText hpiece] using ih hrules
  | rule hpiece hrest ih =>
    obtain ⟨hrule, hrules⟩ := List.forall_mem_cons.1 hrules
    have htrim := hrule.word.trim_padded hpiece
    have hrest := ih hrules
    simp_all [hrule.word.ne_empty]

theorem notMem (h : SpelledRules rules pieces) {c : Char} (hc : isBlank c = false)
    (hrules : ∀ rule ∈ rules, c ∉ rule.toList) : ∀ piece ∈ pieces, c ∉ piece.toList := by
  induction h with
  | nil => simp
  | blank hpiece hrest ih =>
    exact List.forall_mem_cons.2 ⟨notMem_of_isBlankText hpiece hc, ih hrules⟩
  | rule hpiece hrest ih =>
    obtain ⟨hrule, hrules⟩ := List.forall_mem_cons.1 hrules
    exact List.forall_mem_cons.2 ⟨by rwa [mem_toList_of_padded hpiece hc], ih hrules⟩

end SpelledRules

namespace Field

/-- The rules of a text do not depend on the blanks at its end. -/
theorem parseRules_append {after : String} (h : isBlankText after = true) (text : String) :
    parseRules (text ++ after) = parseRules text := by
  have hsep : '&' ∉ after.toList := notMem_of_isBlankText h (by decide)
  obtain ⟨front, last, htext, happend⟩ := exists_cutChars_append hsep text.toList
  have hlast : trim (String.ofList last ++ after) = trim (String.ofList last) :=
    trim_of_padded ⟨"", after, rfl, h, by simp⟩
  simp [parseRules, cut, htext, happend, hlast]

theorem parseRules_trimEnd (text : String) :
    parseRules (trimEnd text) = parseRules text := by
  obtain ⟨after, hafter, htext⟩ := exists_eq_trimEnd_append text
  have happend := parseRules_append hafter (trimEnd text)
  rw [← htext] at happend
  exact happend.symm

theorem parseRules_join {rules pieces : List String} (h : SpelledRules rules pieces)
    (hrules : ∀ rule ∈ rules, IsWritableRule rule) : parseRules (join "&" pieces) = rules := by
  by_cases hne : pieces = []
  · subst hne
    cases h
    rfl
  · have hpieces := h.notMem (by decide) fun rule hrule => (hrules rule hrule).noAmpersand
    have hcut : cut '&' (join "&" pieces) = pieces := cut_join hne hpieces
    rw [parseRules, hcut, h.filter_trim hrules]

/-- The kind ends at the first bar, behind which blanks at the end do not count. -/
theorem cutKind_trimEnd {kind : String} (hkind : '|' ∉ kind.toList) (rest : String) :
    cutKind (trimEnd (kind ++ "|" ++ rest)) = (kind, parseRules rest) := by
  have htrim : trimEnd (kind ++ "|" ++ rest) = kind ++ "|" ++ trimEnd rest :=
    trimEnd_append (c := '|') (by decide) kind rest
  have hcut : cutFirst? '|' (kind ++ "|" ++ trimEnd rest) = some (kind, trimEnd rest) :=
    cutFirst?_append hkind _
  simp [cutKind, htrim, hcut, parseRules_trimEnd]

theorem cutKind_of_notMem {text : String} (h : '|' ∉ text.toList) : cutKind text = (text, []) := by
  simp [cutKind, cutFirst?_of_notMem h]

/-- A text is read part by part: the name up to the first colon, then kind and rules. -/
theorem parse_append {name rest : String} (hname : ':' ∉ name.toList) :
    parse (name ++ ":" ++ rest) =
      if trim name = "" then .error (.malformed (trim (name ++ ":" ++ rest)) .emptyName)
      else if trim (cutKind (trimEnd rest)).1 = "" then
        .error (.malformed (trim (name ++ ":" ++ rest)) .emptyKind)
      else .ok
        { name := trim name
          kind := .ofKeyword (trim (cutKind (trimEnd rest)).1)
          rules := (cutKind (trimEnd rest)).2 } := by
  have htrim : trim (name ++ ":" ++ rest) = trimStart name ++ ":" ++ trimEnd rest :=
    trim_append (c := ':') (by decide) name rest
  have hstart : ':' ∉ (trimStart name).toList := by
    rwa [← mem_toList_of_padded (padded_trimStart name) (by decide)]
  have hcut : cutFirst? ':' (trimStart name ++ ":" ++ trimEnd rest) =
      some (trimStart name, trimEnd rest) := cutFirst?_append hstart _
  have hname : trim (trimStart name) = trim name :=
    (trim_of_padded (padded_trimStart name)).symm
  simp only [parse, htrim, hcut, hname]

variable {field : Field} {text : String}

theorem parse_of_parts (h : field.IsWritable) {name rest kind : String}
    (hname : Padded field.name name) (hrest : cutKind (trimEnd rest) = (kind, field.rules))
    (hkind : trim kind = field.kind.keyword) : parse (name ++ ":" ++ rest) = .ok field := by
  have hcolon : ':' ∉ name.toList := hname.notMem (by decide) h.noColon
  rw [parse_append hcolon, h.name.trim_padded hname, if_neg h.name.ne_empty, hrest,
    hkind, if_neg h.kind.word.ne_empty, h.kind.ofKeyword_keyword]

/-- A field is read from each of its spellings. -/
theorem parse_of_spelled (h : field.IsWritable) (hspelled : field.Spelled text) :
    parse text = .ok field := by
  cases hspelled with
  | @plain name kind _ hname hkind hrules htext =>
    obtain ⟨before, after, hbefore, hafter, rfl⟩ := htext
    have hname' : Padded field.name (before ++ name) := hname.append_left hbefore
    have hkind' : Padded field.kind.keyword (kind ++ after) := hkind.append_right hafter
    have hend := padded_trimEnd (kind ++ after)
    have hbar : '|' ∉ (trimEnd (kind ++ after)).toList := by
      rw [← mem_toList_of_padded hend (by decide), mem_toList_of_padded hkind' (by decide)]
      exact h.kind.notMem (.inr rfl)
    have htext : before ++ (name ++ ":" ++ kind) ++ after =
        before ++ name ++ ":" ++ (kind ++ after) := by
      simp only [String.append_assoc]
    rw [htext]
    have hcut : cutKind (trimEnd (kind ++ after)) = (trimEnd (kind ++ after), field.rules) := by
      rw [cutKind_of_notMem hbar, hrules]
    refine parse_of_parts h hname' hcut ?_
    rw [← trim_of_padded hend, h.kind.word.trim_padded hkind']
  | @ruled name kind _ pieces hname hkind hrules htext =>
    obtain ⟨before, after, hbefore, hafter, rfl⟩ := htext
    have hname' : Padded field.name (before ++ name) := hname.append_left hbefore
    have hbar : '|' ∉ kind.toList := hkind.notMem (by decide) (h.kind.notMem (.inr rfl))
    have htext : before ++ (name ++ ":" ++ (kind ++ "|" ++ join "&" pieces)) ++ after =
        before ++ name ++ ":" ++ (kind ++ "|" ++ (join "&" pieces ++ after)) := by
      simp only [String.append_assoc]
    rw [htext]
    refine parse_of_parts h hname' ?_ (h.kind.word.trim_padded hkind)
    rw [cutKind_trimEnd hbar, parseRules_append hafter, parseRules_join hrules h.rules]

/-- A spelling of a field that can be written has no comma. -/
theorem noComma_of_spelled (h : field.IsWritable) (hspelled : field.Spelled text) :
    ',' ∉ text.toList := by
  cases hspelled with
  | plain hname hkind hrules htext =>
    have hname := hname.notMem (by decide) h.noComma
    have hkind := hkind.notMem (by decide) (h.kind.notMem (.inl rfl))
    exact htext.notMem (by decide) (by simp [hname, hkind])
  | ruled hname hkind hrules htext =>
    have hname := hname.notMem (by decide) h.noComma
    have hkind := hkind.notMem (by decide) (h.kind.notMem (.inl rfl))
    have hpieces := hrules.notMem (by decide) fun rule hrule => (h.rules rule hrule).noComma
    have hjoin := notMem_join (by decide : ',' ∉ "&".toList) hpieces
    exact htext.notMem (by decide) (by simp [hname, hkind, hjoin])

theorem colon_mem_of_spelled (hspelled : field.Spelled text) : ':' ∈ text.toList := by
  cases hspelled with
  | plain hname hkind hrules htext =>
    rw [mem_toList_of_padded htext (by decide)]
    simp
  | ruled hname hkind hrules htext =>
    rw [mem_toList_of_padded htext (by decide)]
    simp

/-- The text that is written for a field is one of its spellings. -/
theorem spelled_render (field : Field) : field.Spelled field.render := by
  unfold render
  split
  · rename_i hrules
    exact .plain (padded_self _) (padded_self _) (by simpa using hrules) (padded_self _)
  · have hpieces (rules : List String) : SpelledRules rules rules := by
      induction rules with
      | nil => exact .nil
      | cons rule rules ih => exact .rule (padded_self rule) ih
    refine .ruled (padded_self _) (padded_self _) (hpieces field.rules) ?_
    simp only [String.append_assoc]
    exact padded_self _

/-! ## What is read -/

theorem isWritableRule_of_mem {rules rule : String} (hcomma : ',' ∉ rules.toList)
    (h : rule ∈ parseRules rules) : IsWritableRule rule := by
  obtain ⟨hmem, hne⟩ := List.mem_filter.1 h
  obtain ⟨piece, hpiece, rfl⟩ := List.mem_map.1 hmem
  have hpieceComma : ',' ∉ piece.toList := fun hc => hcomma (mem_of_mem_cut hpiece hc)
  exact ⟨isWord_trim (by simpa using hne), notMem_trim (by decide) hpieceComma,
    notMem_trim (by decide) (notMem_of_mem_cut hpiece)⟩

/-- Behind the name, the kind has no bar, and the rules can be written. -/
theorem isWritable_cutKind {rest : String} (hcomma : ',' ∉ rest.toList) :
    ',' ∉ (cutKind rest).1.toList ∧ '|' ∉ (cutKind rest).1.toList ∧
      ∀ rule ∈ (cutKind rest).2, IsWritableRule rule := by
  unfold cutKind
  split
  · rename_i kind rules hcut
    obtain ⟨rfl, hbar⟩ := cutFirst?_eq_some hcut
    have hparts : ',' ∉ kind.toList ∧ ',' ∉ rules.toList := by simpa using hcomma
    exact ⟨hparts.1, hbar, fun rule hrule => isWritableRule_of_mem hparts.2 hrule⟩
  · rename_i hcut
    exact ⟨hcomma, notMem_of_cutFirst?_eq_none hcut, by simp⟩

/-- A field that is read from a text without commas can be written. -/
theorem isWritable_of_parse (hcomma : ',' ∉ text.toList) (h : parse text = .ok field) :
    field.IsWritable := by
  unfold parse at h
  simp only at h
  split at h
  · simp at h
  · rename_i name rest hcut
    obtain ⟨htext, hcolon⟩ := cutFirst?_eq_some hcut
    have hsegment : ',' ∉ (trim text).toList := notMem_trim (by decide) hcomma
    have hparts : ',' ∉ name.toList ∧ ',' ∉ rest.toList := by simpa [htext] using hsegment
    have hrest := isWritable_cutKind hparts.2
    split at h
    · simp at h
    · rename_i hname
      cases hcutKind : cutKind rest with
      | mk kind rules =>
        rw [hcutKind] at h hrest
        obtain ⟨hkindComma, hkindBar, hrules⟩ := hrest
        simp only at h
        split at h
        · simp at h
        · rename_i hkind
          have hkind := Kind.isWritable_ofKeyword (isWord_trim hkind)
            (notMem_trim (by decide) hkindComma) (notMem_trim (by decide) hkindBar)
          obtain rfl := Except.ok.inj h
          exact ⟨isWord_trim hname, notMem_trim (by decide) hparts.1,
            notMem_trim (by decide) hcolon, hkind, hrules⟩

end Field

end CrudForge
