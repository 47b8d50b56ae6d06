import CrudForge.Proofs.Naming.Label

/-!
# Labels word by word

Underscores and blanks cut a name into words. A label has the same words at the same places, each
with a capital, so it can be put together from the labels of parts. The capital of a word may be
several characters, but none of them is blank, and the first of them is a capital itself, so a label
has the label that it is.

## Main definitions

* `Naming.isBreak` — the characters between the words of a name.
* `Naming.capital` — a word with a capital.
-/

namespace CrudForge

/-- A text is a word, or it is a word, a blank and a text. -/
@[elab_as_elim] theorem Text.induction_word {motive : List Char → Prop}
    (word : ∀ cs, (∀ c ∈ cs, isBlank c = false) → motive cs)
    (blank : ∀ cs w rest, (∀ c ∈ cs, isBlank c = false) → isBlank w = true → motive rest →
      motive (cs ++ w :: rest))
    (cs : List Char) : motive cs := by
  -- The word in front of `cs` grows until a blank comes.
  suffices hfront : ∀ front, (∀ c ∈ front, isBlank c = false) → motive (front ++ cs) from
    hfront [] (by simp)
  induction cs with
  | nil =>
    intro front hfront
    rw [List.append_nil]
    exact word front hfront
  | cons c cs ih =>
    intro front hfront
    cases hc : isBlank c with
    | true => exact blank front c cs hfront hc (ih [] (by simp))
    | false =>
      have hlonger : ∀ d ∈ front ++ [c], isBlank d = false := by
        simpa [or_imp, forall_and, hc] using hfront
      simpa using ih (front ++ [c]) hlonger

namespace Naming

open Text

variable {w : Char} {cs : List Char}

/-- A word with a capital: upper case for its first character. -/
def capital : List Char → List Char
  | [] => []
  | c :: cs => upperOf c ++ cs

theorem not_isBlank_of_mem_capital (h : ∀ c ∈ cs, isBlank c = false) :
    ∀ c ∈ capital cs, isBlank c = false := by
  cases cs with
  | nil => exact h
  | cons c cs =>
    rw [List.forall_mem_cons] at h
    rw [capital, List.forall_mem_append]
    exact ⟨fun d hd => not_isBlank_of_mem_upperOf h.1 hd, h.2⟩

/-- A capital has no other capital. -/
theorem capital_capital (cs : List Char) : capital (capital cs) = capital cs := by
  cases cs with
  | nil => rfl
  | cons c cs =>
    obtain ⟨d, ds, hupper⟩ := List.exists_cons_of_ne_nil (upperOf_ne_nil c)
    have hd : upperOf d = [d] := upperOf_of_mem_upperOf (c := c) (by simp [hupper])
    simp [capital, hupper, hd]

/-! ## Words of a text -/

theorem capitalise_false_of_word (h : ∀ c ∈ cs, isBlank c = false) : capitalise false cs = cs := by
  induction cs with
  | nil => rfl
  | cons c cs ih =>
    rw [List.forall_mem_cons] at h
    rw [capitalise, h.1, ih h.2]
    rfl

theorem capitalise_true_of_word (h : ∀ c ∈ cs, isBlank c = false) :
    capitalise true cs = capital cs := by
  cases cs with
  | nil => rfl
  | cons c cs =>
    rw [List.forall_mem_cons] at h
    rw [capitalise, h.1, capitalise_false_of_word h.2]
    rfl

/-- What is behind a blank starts a word, and the blank stays as it is. -/
theorem capitalise_append_blank (hw : isBlank w = true) (atStart : Bool) (as bs : List Char) :
    capitalise atStart (as ++ w :: bs) = capitalise atStart as ++ w :: capitalise true bs := by
  induction as generalizing atStart with
  | nil => simp [capitalise, upperOf_of_isBlank hw, hw]
  | cons c as ih => simp [capitalise, ih]

theorem capitalise_capitalise (cs : List Char) :
    capitalise true (capitalise true cs) = capitalise true cs := by
  induction cs using Text.induction_word with
  | word cs h =>
    rw [capitalise_true_of_word h, capitalise_true_of_word (not_isBlank_of_mem_capital h),
      capital_capital]
  | blank cs w rest h hw ih =>
    rw [capitalise_append_blank hw, capitalise_append_blank hw, capitalise_true_of_word h,
      capitalise_true_of_word (not_isBlank_of_mem_capital h), capital_capital, ih]

/-- The words of a text are its words with capitals. -/
theorem splitOnP_capitalise (cs : List Char) :
    (capitalise true cs).splitOnP isBlank = (cs.splitOnP isBlank).map capital := by
  induction cs using Text.induction_word with
  | word cs h =>
    rw [capitalise_true_of_word h, List.splitOnP_eq_singleton h,
      List.splitOnP_eq_singleton (not_isBlank_of_mem_capital h), List.map_singleton]
  | blank cs w rest h hw ih =>
    rw [capitalise_append_blank hw, capitalise_true_of_word h, List.splitOnP_append_cons _ _ hw,
      List.splitOnP_append_cons _ _ hw, List.splitOnP_eq_singleton h,
      List.splitOnP_eq_singleton (not_isBlank_of_mem_capital h), ih, List.map_append,
      List.map_singleton]

/-! ## Words of a name -/

/-- The words of a name end at underscores and blanks. -/
def isBreak (c : Char) : Bool :=
  c = '_' || isBlank c

theorem isBlank_spaced (c : Char) : isBlank (spaced c) = isBreak c := by
  by_cases hc : c = '_'
  · subst hc
    rfl
  · simp [spaced, isBreak, hc]

theorem spaced_of_not_isBreak {c : Char} (h : isBreak c = false) : spaced c = c := by
  simp only [isBreak, Bool.or_eq_false_iff, decide_eq_false_iff_not] at h
  exact if_neg h.1

/-- Underscores cut a name into the words that spaces cut it into. -/
theorem splitOnP_spaced (cs : List Char) :
    (cs.map spaced).splitOnP isBlank = cs.splitOnP isBreak := by
  induction cs with
  | nil => rfl
  | cons c cs ih =>
    rw [List.map_cons, List.splitOnP_cons_eq_if_modifyHead, List.splitOnP_cons_eq_if_modifyHead,
      isBlank_spaced, ih]
    cases hc : isBreak c with
    | true => rfl
    | false => rw [spaced_of_not_isBreak hc]

theorem spaced_ne_underscore (c : Char) : spaced c ≠ '_' := by
  unfold spaced
  split
  · decide
  · assumption

theorem underscore_notMem_label (name : String) : '_' ∉ (label name).toList := by
  rw [toList_label]
  intro hmem
  obtain ⟨c, -, hc⟩ := List.mem_map.1 (mem_of_mem_capitalise (by decide) (by decide) hmem)
  exact spaced_ne_underscore c hc

/-- A label is put together from the labels of what is in front of a break and behind it. -/
theorem label_append_break {b : Char} (hb : isBreak b = true) (before after : String) :
    label (before ++ String.singleton b ++ after) =
      label before ++ String.singleton (spaced b) ++ label after := by
  have hblank : isBlank (spaced b) = true := (isBlank_spaced b).trans hb
  rw [← String.toList_inj]
  simp [toList_label, capitalise_append_blank hblank]

theorem label_append_blank (hw : isBlank w = true) (before after : String) :
    label (before ++ String.singleton w ++ after) =
      label before ++ String.singleton w ++ label after := by
  have hbreak : isBreak w = true := by simp [isBreak, hw]
  have hself : spaced w = w := by
    refine if_neg fun heq => ?_
    subst heq
    exact absurd hw (by decide)
  rw [label_append_break hbreak, hself]

theorem label_label (name : String) : label (label name) = label name := by
  have hself : ∀ c ∈ (label name).toList, spaced c = c := by
    intro c hc
    refine if_neg fun heq => ?_
    exact underscore_notMem_label name (heq ▸ hc)
  rw [← String.toList_inj, toList_label, List.map_congr_left hself, List.map_id', toList_label,
    capitalise_capitalise]

/-- A label is built word by word. An underscore or a blank in a name parts two labels, a space
stands for the underscore, and the words between them get capitals and are else as they were, so
that a label is its own label. -/
theorem label_word_by_word :
    (∀ before after, label (before ++ "_" ++ after) = label before ++ " " ++ label after) ∧
    (∀ before after w, isBlank w = true →
      label (before ++ String.singleton w ++ after) =
        label before ++ String.singleton w ++ label after) ∧
    (∀ name, '_' ∉ (label name).toList) ∧
    (∀ name, (label name).toList.splitOnP isBlank =
      (name.toList.splitOnP isBreak).map capital) ∧
    ∀ name, label (label name) = label name := by
  refine ⟨?_, fun before after w hw => label_append_blank hw before after, underscore_notMem_label,
    ?_, label_label⟩
  · intro before after
    have hunderscore : isBreak '_' = true := by decide
    exact label_append_break hunderscore before after
  · intro name
    rw [toList_label, splitOnP_capitalise, splitOnP_spaced]

/-- A capital of two letters, underscores in a row and blanks of two kinds. -/
theorem label_word_by_word_mixed :
    isBlank '\u3000' = true ∧
      label "ßize__of\u3000\tﬁle_ID" = "SSize  Of\u3000\tFIle ID" := by
  have hblank : isBlank '\u3000' = true := by decide
  obtain ⟨-, hparts, -⟩ := label_word_by_word
  have hfront : label "ßize__of" = "SSize  Of" := by decide
  have hbehind : label "\tﬁle_ID" = "\tFIle ID" := by decide
  have hlabel := hparts "ßize__of" "\tﬁle_ID" '\u3000' hblank
  rw [hfront, hbehind] at hlabel
  exact ⟨hblank, hlabel⟩

end Naming
end CrudForge
