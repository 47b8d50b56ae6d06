import CrudForge.Proofs.Text.Cut
import CrudForge.Text.Blank

/-!
# Laws of trimming

Trimming undoes padding with blanks, and depends on the text between the blanks alone. A character
that is not blank keeps what is around it: a text with it is trimmed on the far side of each part.

## Main definitions

* `Text.Padded` — a text with blanks around it.
* `Text.IsWord` — a text that trimming leaves, other than the empty one.
* `Text.trimStart`, `Text.trimEnd` — trimming on one side.
-/

namespace CrudForge.Text

/-! ## Lists of characters -/

section Chars

variable {as bs cs : List Char} {c : Char}

theorem dropWhile_append_of_blank (h : as.all isBlank = true) :
    (as ++ bs).dropWhile isBlank = bs.dropWhile isBlank := by
  rw [List.dropWhile_append_of_pos (by simpa using h)]

theorem dropWhile_append_cons (hc : isBlank c = false) :
    (as ++ c :: bs).dropWhile isBlank = as.dropWhile isBlank ++ c :: bs := by
  induction as with
  | nil => simp [hc]
  | cons a as ih =>
    by_cases ha : isBlank a = true
    · simp [ha, ih]
    · simp [ha]

theorem trimRight_append_of_blank (h : bs.all isBlank = true) :
    trimRight (as ++ bs) = trimRight as := by
  have hreverse : bs.reverse.all isBlank = true := by simpa using h
  simp [trimRight, dropWhile_append_of_blank hreverse]

theorem trimRight_append_cons (hc : isBlank c = false) :
    trimRight (as ++ c :: bs) = as ++ c :: trimRight bs := by
  simp [trimRight, dropWhile_append_cons hc]

theorem dropWhile_of_blank (h : as.all isBlank = true) : as.dropWhile isBlank = [] := by
  rw [← List.append_nil as, dropWhile_append_of_blank h, List.dropWhile_nil]

/-- Only blanks are dropped at the end. -/
theorem exists_eq_trimRight_append (cs : List Char) :
    ∃ bs, bs.all isBlank = true ∧ cs = trimRight cs ++ bs := by
  refine ⟨(cs.reverse.takeWhile isBlank).reverse, ?_, ?_⟩
  · simp [List.all_takeWhile]
  · rw [trimRight, ← List.reverse_append, List.takeWhile_append_dropWhile, List.reverse_reverse]

theorem exists_eq_append_dropWhile (cs : List Char) :
    ∃ as, as.all isBlank = true ∧ cs = as ++ cs.dropWhile isBlank :=
  ⟨cs.takeWhile isBlank, by simp [List.all_takeWhile], List.takeWhile_append_dropWhile.symm⟩

/-- Blanks around a text make no difference. -/
theorem trimChars_append (has : as.all isBlank = true) (hbs : bs.all isBlank = true) :
    trimChars (as ++ cs ++ bs) = trimChars cs := by
  rw [trimChars, trimChars, List.append_assoc, dropWhile_append_of_blank has,
    List.dropWhile_append]
  split
  · rename_i hempty
    rw [dropWhile_of_blank hbs, List.isEmpty_iff.1 hempty]
  · exact trimRight_append_of_blank hbs

end Chars

/-! ## Texts -/

/-- `s` without its blanks at the start. -/
def trimStart (s : String) : String :=
  String.ofList (s.toList.dropWhile isBlank)

/-- `s` without its blanks at the end. -/
def trimEnd (s : String) : String :=
  String.ofList (trimRight s.toList)

/-- `t` is `s` with blanks around it. -/
def Padded (s t : String) : Prop :=
  ∃ before after : String, isBlankText before = true ∧ isBlankText after = true ∧
    t = before ++ s ++ after

/-- A text without blanks at its ends that is not empty. -/
structure IsWord (s : String) : Prop where
  ne_empty : s ≠ ""
  trim_eq : trim s = s

instance (s : String) : Decidable (IsWord s) :=
  decidable_of_iff (s ≠ "" ∧ trim s = s) ⟨fun h => ⟨h.1, h.2⟩, fun h => ⟨h.1, h.2⟩⟩

section Texts

variable {s t : String} {c : Char}

@[simp] theorem isBlankText_append (s t : String) :
    isBlankText (s ++ t) = (isBlankText s && isBlankText t) := by
  simp [isBlankText]

theorem notMem_of_isBlankText (h : isBlankText s = true) (hc : isBlank c = false) :
    c ∉ s.toList := by
  intro hcs
  simp [List.all_eq_true.1 h c hcs] at hc

/-- Trimming undoes padding. -/
theorem trim_of_padded (h : Padded s t) : trim t = trim s := by
  obtain ⟨before, after, hbefore, hafter, rfl⟩ := h
  refine String.toList_inj.1 ?_
  rw [toList_trim, toList_trim, String.toList_append, String.toList_append]
  exact trimChars_append hbefore hafter

theorem exists_eq_trimEnd_append (s : String) :
    ∃ after, isBlankText after = true ∧ s = trimEnd s ++ after := by
  obtain ⟨after, hafter, hs⟩ := exists_eq_trimRight_append s.toList
  refine ⟨String.ofList after, by simpa [isBlankText] using hafter, ?_⟩
  exact String.toList_inj.1 (by simpa [trimEnd] using hs)

theorem padded_trimEnd (s : String) : Padded (trimEnd s) s := by
  obtain ⟨after, hafter, hs⟩ := exists_eq_trimEnd_append s
  exact ⟨"", after, rfl, hafter, by simpa using hs⟩

theorem padded_trimStart (s : String) : Padded (trimStart s) s := by
  obtain ⟨before, hbefore, hs⟩ := exists_eq_append_dropWhile s.toList
  refine ⟨String.ofList before, "", by simpa [isBlankText] using hbefore, rfl, ?_⟩
  exact String.toList_inj.1 (by simpa [trimStart] using hs)

theorem padded_self (s : String) : Padded s s :=
  ⟨"", "", rfl, rfl, by simp⟩

theorem Padded.append_left (h : Padded s t) {before : String}
    (hbefore : isBlankText before = true) : Padded s (before ++ t) := by
  obtain ⟨before', after, hbefore', hafter, rfl⟩ := h
  refine ⟨before ++ before', after, by simp [hbefore, hbefore'], hafter, ?_⟩
  simp only [String.append_assoc]

theorem Padded.append_right (h : Padded s t) {after : String} (hafter : isBlankText after = true) :
    Padded s (t ++ after) := by
  obtain ⟨before, after', hbefore, hafter', rfl⟩ := h
  refine ⟨before, after' ++ after, hbefore, by simp [hafter, hafter'], ?_⟩
  simp only [String.append_assoc]

theorem trim_eq_trimEnd (s : String) : trim s = trimEnd (trimStart s) := by
  simp [trim, trimEnd, trimStart, trimChars]

theorem padded_trim (s : String) : Padded (trim s) s := by
  obtain ⟨before, after, hbefore, hafter, hs⟩ := padded_trimStart s
  obtain ⟨before', after', hbefore', hafter', hs'⟩ := padded_trimEnd (trimStart s)
  refine ⟨before ++ before', after' ++ after, ?_, ?_, ?_⟩
  · rw [isBlankText_append, hbefore, hbefore', Bool.and_self]
  · rw [isBlankText_append, hafter, hafter', Bool.and_self]
  · rw [trim_eq_trimEnd]
    calc
      s = before ++ trimStart s ++ after := hs
      _ = before ++ (before' ++ trimEnd (trimStart s) ++ after') ++ after := by rw [← hs']
      _ = _ := by simp only [String.append_assoc]

theorem trim_trim (s : String) : trim (trim s) = trim s :=
  (trim_of_padded (padded_trim s)).symm

theorem isWord_trim (h : trim s ≠ "") : IsWord (trim s) :=
  ⟨h, trim_trim s⟩

/-- A word comes back from its paddings. -/
theorem IsWord.trim_padded (h : IsWord s) (ht : Padded s t) : trim t = s :=
  (trim_of_padded ht).trans h.trim_eq

theorem trim_of_isBlankText (h : isBlankText s = true) : trim s = "" := by
  have hpadded : Padded "" s := ⟨s, "", h, rfl, by simp⟩
  rw [trim_of_padded hpadded]
  rfl

theorem trim_eq_empty_iff : trim s = "" ↔ isBlankText s = true := by
  refine ⟨fun h => ?_, trim_of_isBlankText⟩
  obtain ⟨before, after, hbefore, hafter, hs⟩ := padded_trim s
  rw [h] at hs
  simp [hs, hbefore, hafter]

/-- Padding adds no characters but blanks. -/
theorem mem_toList_of_padded (h : Padded s t) (hc : isBlank c = false) :
    c ∈ t.toList ↔ c ∈ s.toList := by
  obtain ⟨before, after, hbefore, hafter, rfl⟩ := h
  simp [notMem_of_isBlankText hbefore hc, notMem_of_isBlankText hafter hc]

theorem Padded.notMem (h : Padded s t) (hc : isBlank c = false) (hs : c ∉ s.toList) :
    c ∉ t.toList := by
  rwa [mem_toList_of_padded h hc]

theorem notMem_trim (hc : isBlank c = false) (h : c ∉ s.toList) : c ∉ (trim s).toList := by
  rwa [← mem_toList_of_padded (padded_trim s) hc]

/-- Around a character that is not blank, each side is trimmed where it is far from it. -/
theorem trim_append (hc : isBlank c = false) (a b : String) :
    trim (a ++ String.singleton c ++ b) = trimStart a ++ String.singleton c ++ trimEnd b := by
  refine String.toList_inj.1 ?_
  simp [trimChars, trimStart, trimEnd, dropWhile_append_cons hc, trimRight_append_cons hc]

theorem trimEnd_append (hc : isBlank c = false) (a b : String) :
    trimEnd (a ++ String.singleton c ++ b) = a ++ String.singleton c ++ trimEnd b := by
  refine String.toList_inj.1 ?_
  simp [trimEnd, trimRight_append_cons hc]

end Texts

end CrudForge.Text
