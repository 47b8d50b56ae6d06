import CrudForge.Naming.Basic
import CrudForge.Proofs.Text.Ascii
import Mathlib.Data.List.Infix
import Mathlib.Data.List.TakeWhile

/-!
# Names of resources in lower case

The singular and the plural of a class name are names in lower case: an ASCII letter and then ASCII
letters, digits and underscores. For the plural every rule is looked at: what it leaves of the word
and what it adds.

## Main definitions

* `Naming.isLowerName` — names in lower case.
* `PluralRule.isSound` — a rule that makes such a name of every word that it applies to.
-/

namespace CrudForge.Naming

/-- The characters of names in lower case. -/
def isLowerChar (c : Char) : Bool :=
  c.isLower || c.isDigit || c = '_'

/-- Names in lower case start with a letter. -/
def isLowerName : List Char → Bool
  | [] => false
  | c :: cs => c.isLower && cs.all isLowerChar

theorem isLowerName_cons {c : Char} {cs : List Char} :
    isLowerName (c :: cs) = true ↔ c.isLower = true ∧ ∀ d ∈ cs, isLowerChar d = true := by
  simp [isLowerName]

theorem isLowerChar_of_isLower {c : Char} (h : c.isLower = true) : isLowerChar c = true := by
  simp [isLowerChar, h]

theorem isLowerChar_of_mem {cs : List Char} (h : isLowerName cs = true) :
    ∀ c ∈ cs, isLowerChar c = true := by
  cases cs with
  | nil => simp [isLowerName] at h
  | cons c cs =>
    obtain ⟨hc, hcs⟩ := isLowerName_cons.1 h
    exact List.forall_mem_cons.2 ⟨isLowerChar_of_isLower hc, hcs⟩

/-- A name goes on being one. -/
theorem isLowerName_append {as bs : List Char} (ha : isLowerName as = true)
    (hb : ∀ c ∈ bs, isLowerChar c = true) : isLowerName (as ++ bs) = true := by
  cases as with
  | nil => simp [isLowerName] at ha
  | cons c cs =>
    obtain ⟨hc, hcs⟩ := isLowerName_cons.1 ha
    exact isLowerName_cons.2 ⟨hc, List.forall_mem_append.2 ⟨hcs, hb⟩⟩

theorem isLowerName_of_append {as bs : List Char} (h : isLowerName (as ++ bs) = true)
    (ha : as ≠ []) : isLowerName as = true := by
  cases as with
  | nil => exact absurd rfl ha
  | cons c cs =>
    obtain ⟨hc, hcs⟩ := isLowerName_cons.1 h
    exact isLowerName_cons.2 ⟨hc, (List.forall_mem_append.1 hcs).1⟩

theorem isWordChar_of_isLowerChar {c : Char} (h : isLowerChar c = true) :
    Text.isWordChar c = true := by
  simp only [isLowerChar, Bool.or_eq_true, decide_eq_true_eq] at h
  simp only [Text.isWordChar, Text.isAlphanum_eq, Bool.or_eq_true, decide_eq_true_eq]
  rcases h with (h | h) | h <;> simp [h]

/-! ## Lower case -/

/-- The characters of class names are in ASCII. -/
theorem toNat_le_of_isClassChar {c : Char} (h : (c.isAlphanum || c = '_') = true) :
    c.toNat ≤ 127 := by
  rw [Bool.or_eq_true, decide_eq_true_eq] at h
  rcases h with h | rfl
  · exact Text.toNat_le_of_isAlphanum h
  · decide

/-- In lower case they are characters of names in lower case, and letters are letters. -/
theorem isLowerChar_toLower {c : Char} (h : (c.isAlphanum || c = '_') = true) :
    isLowerChar c.toLower = true ∧ (c.isAlpha = true → c.toLower.isLower = true) :=
  Text.forall_ascii
    (P := fun c => (c.isAlphanum || c = '_') = true →
      isLowerChar c.toLower = true ∧ (c.isAlpha = true → c.toLower.isLower = true))
    (by decide) (toNat_le_of_isClassChar h) h

theorem lowerChars_eq_map {cs : List Char}
    (h : ∀ c ∈ cs, (c.isAlphanum || c = '_') = true) (before : List Char) :
    Text.lowerChars before cs = cs.map Char.toLower := by
  induction cs generalizing before with
  | nil => rfl
  | cons c cs ih =>
    obtain ⟨hc, hcs⟩ := List.forall_mem_cons.1 h
    have hsigma : c ≠ 'Σ' := by
      rintro rfl
      exact absurd hc (by decide)
    simp [Text.lowerChars, hsigma, Text.lowerOf_of_ascii (toNat_le_of_isClassChar hc), ih hcs]

/-- The singular of a class name is a name in lower case. -/
theorem isLowerName_singular {resource : String} (h : isClassName resource = true) :
    isLowerName (singular resource).toList = true := by
  unfold isClassName at h
  split at h
  · exact absurd h (by simp)
  · rename_i c cs hcs
    rw [Bool.and_eq_true, List.all_eq_true] at h
    obtain ⟨hc, hall⟩ := h
    have hlower : (singular resource).toList = (c :: cs).map Char.toLower := by
      simp [singular, Text.lower, hcs, lowerChars_eq_map hall]
    rw [hlower, List.map_cons, isLowerName_cons]
    refine ⟨(isLowerChar_toLower (hall c List.mem_cons_self)).2 hc,
      List.forall_mem_map.2 fun d hd => ?_⟩
    exact (isLowerChar_toLower (hall d (List.mem_cons_of_mem _ hd))).1

/-! ## Plurals -/

theorem append_of_takeStem? {stem : List Letter} {cs taken left : List Char}
    (h : takeStem? stem cs = some (taken, left)) :
    cs = taken ++ left ∧ taken.length = stem.length := by
  induction stem generalizing cs taken left with
  | nil =>
    simp only [takeStem?, Option.some.injEq, Prod.mk.injEq] at h
    simp [← h.1, ← h.2]
  | cons letter stem ih =>
    cases cs with
    | nil => simp [takeStem?] at h
    | cons c cs =>
      rw [takeStem?] at h
      split at h
      · obtain ⟨⟨taken', left'⟩, htake, heq⟩ := Option.map_eq_some_iff.1 h
        simp only [Prod.mk.injEq] at heq
        obtain ⟨rfl, rfl⟩ := heq
        obtain ⟨rfl, hlength⟩ := ih htake
        simp [hlength]
      · simp at h

/-- A rule that adds lower-case letters only, and some if it may leave nothing. -/
def PluralRule.isSound (rule : PluralRule) : Bool :=
  rule.suffix.toList.all Char.isLower && rule.stems.all fun stem => stem ≠ [] || rule.suffix ≠ ""

theorem isSound_of_mem {rule : PluralRule} (h : rule ∈ pluralRules) : rule.isSound = true := by
  have hall : pluralRules.all (·.isSound) = true := by decide
  exact List.all_eq_true.1 hall rule h

/-- A rule keeps the word up to its ending. -/
theorem exists_prefix_of_applyWith? {rule : PluralRule} {stem : List Letter} {ending : String}
    {word plural : List Char} (hword : ∀ c ∈ word, Text.isWordChar c = true)
    (h : rule.applyWith? stem ending word = some plural) :
    ∃ kept, kept <+: word ∧ stem.length ≤ kept.length ∧ plural = kept ++ rule.suffix.toList := by
  unfold PluralRule.applyWith? at h
  split at h
  · simp at h
  · rename_i rest hrest
    obtain ⟨⟨taken, left⟩, htake, rfl⟩ := Option.map_eq_some_iff.1 h
    obtain ⟨rfl, hlength⟩ := append_of_takeStem? htake
    have hreverse : ending.toList.reverse ++ (taken ++ left) = word.reverse :=
      List.append_eq_of_isPrefixOf?_eq_some hrest
    have hsplit : word = left.reverse ++ taken.reverse ++ ending.toList := by
      have := congrArg List.reverse hreverse
      simpa using this.symm
    have hleft : left.takeWhile Text.isWordChar = left :=
      List.takeWhile_eq_self_iff.2 fun c hc => hword c (by simp [hsplit, hc])
    refine ⟨left.reverse ++ taken.reverse, ⟨ending.toList, hsplit.symm⟩, ?_, by simp [hleft]⟩
    simp at hlength ⊢
    omega

theorem isLowerName_of_image? {rule : PluralRule} {word plural : List Char}
    (hrule : rule.isSound = true) (hword : isLowerName word = true)
    (h : rule.image? word = some plural) : isLowerName plural = true := by
  have hchars := isLowerChar_of_mem hword
  simp only [PluralRule.isSound, Bool.and_eq_true, List.all_eq_true, Bool.or_eq_true,
    decide_eq_true_eq] at hrule
  obtain ⟨hsuffix, hstems⟩ := hrule
  obtain ⟨stem, hstem, h⟩ := List.exists_of_findSome?_eq_some h
  obtain ⟨ending, -, h⟩ := List.exists_of_findSome?_eq_some h
  obtain ⟨kept, ⟨cut, rfl⟩, hlength, rfl⟩ := exists_prefix_of_applyWith?
    (fun c hc => isWordChar_of_isLowerChar (hchars c hc)) h
  by_cases hkept : kept = []
  · -- Nothing of the word is left, so the rule adds something, which starts with a letter.
    have hempty : stem = [] := by simpa [hkept] using hlength
    have hne : rule.suffix.toList ≠ [] := by
      simpa using (hstems stem hstem).resolve_left (by simpa using hempty)
    obtain ⟨c, cs, hcs⟩ := List.exists_cons_of_ne_nil hne
    rw [hcs, List.forall_mem_cons] at hsuffix
    rw [hkept, List.nil_append, hcs, isLowerName_cons]
    exact ⟨hsuffix.1, fun d hd => isLowerChar_of_isLower (hsuffix.2 d hd)⟩
  · exact isLowerName_append (isLowerName_of_append hword hkept)
      fun c hc => isLowerChar_of_isLower (hsuffix c hc)

/-- The plural of a name in lower case is one too. -/
theorem isLowerName_pluralOf {word : String} (h : isLowerName word.toList = true) :
    isLowerName (pluralOf word).toList = true := by
  unfold pluralOf
  split
  · exact h
  · split
    · rename_i plural hlookup
      have hall : irregular.all (fun pair => isLowerName pair.2.toList) = true := by decide
      obtain ⟨before, after, hsplit, -⟩ := List.lookup_eq_some_iff.1 hlookup
      exact List.all_eq_true.1 hall (word, plural) (by simp [hsplit])
    · split
      · rename_i plural himage
        obtain ⟨rule, hrule, himage⟩ := List.exists_of_findSome?_eq_some himage
        simpa using isLowerName_of_image? (isSound_of_mem hrule) h himage
      · rw [String.toList_append]
        exact isLowerName_append h (List.all_eq_true.1 (by decide))

/-- The plural of a class name is a name in lower case. -/
theorem isLowerName_plural {resource : String} (h : isClassName resource = true) :
    isLowerName (plural resource).toList = true :=
  isLowerName_pluralOf (isLowerName_singular h)

end CrudForge.Naming
