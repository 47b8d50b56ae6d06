import CrudForge.Proofs.Diff.Script
import CrudForge.Proofs.Text.Lines

/-!
# Printed differences

Every edited line is printed on a line of its own, behind its sign. So the printed text can be cut
into its lines again, and the lines with some of the signs are told apart from the others.

## Main definitions

* `Diff.marked` — what is printed behind some of the signs.
* `Diff.Interleaved` — two lists, mixed in one.
* `Diff.ShowsLines` — a printed difference that shows the lines of both texts.
* `Diff.Shows` — one that shows only lines of both if the texts are equal.
* `Diff.ShowsChanges` — a printed difference that only shows where the texts differ.
-/

namespace CrudForge.Diff

/-- The texts of the printed lines with one of these signs, behind their signs. -/
def marked (signs : List Char) (printed : String) : List String :=
  (Text.lines printed).filterMap fun line =>
    match line.toList with
    | [] => none
    | sign :: text => if sign ∈ signs then some (String.ofList text) else none

/-- Every printed line has one of these signs. -/
def IsSigned (signs : List Char) (printed : String) : Prop :=
  ∀ line ∈ Text.lines printed, ∃ sign ∈ signs, line.toList.head? = some sign

/-- The elements of the first two lists, each in order, make up the third. -/
inductive Interleaved {α : Type} : List α → List α → List α → Prop
  | nil : Interleaved [] [] []
  | left {as bs list : List α} (a : α) (h : Interleaved as bs list) :
      Interleaved (a :: as) bs (a :: list)
  | right {as bs list : List α} (b : α) (h : Interleaved as bs list) :
      Interleaved as (b :: bs) (b :: list)

/-- Behind blanks and minus signs are the lines of `old`, and behind blanks and plus signs those of
`new`, all but the last of each as they are. Texts without other signs than blanks are equal. -/
structure ShowsLines (old new printed : String) : Prop where
  signed : IsSigned [' ', '-', '+'] printed
  oldLines : marked [' ', '-'] printed = (Text.lines old).map closed
  newLines : marked [' ', '+'] printed = (Text.lines new).map closed
  ends : ∀ line ∈ (Text.lines old).dropLast ++ (Text.lines new).dropLast, closed line = line
  eq_of_unmarked : marked ['-', '+'] printed = [] → old = new

/-- The lines of both texts are shown, and equal texts have no other signs than blanks. -/
structure Shows (old new printed : String) : Prop extends ShowsLines old new printed where
  unmarked_of_eq : old = new → marked ['-', '+'] printed = []

/-- Behind minus signs are lines of `old`, and behind plus signs lines of `new`, without which the
texts have the same lines. -/
structure ShowsChanges (old new printed : String) : Prop where
  signed : IsSigned ['-', '+'] printed
  rest : ∃ kept dropped added : List String,
    Interleaved dropped kept (Text.lines old) ∧ Interleaved added kept (Text.lines new) ∧
      marked ['-'] printed = dropped.map closed ∧ marked ['+'] printed = added.map closed

/-! ## Printing -/

/-- The sign as a character. -/
def Fate.mark : Fate → Char
  | keep => ' '
  | drop => '-'
  | add => '+'

theorem toList_shown (e : Edit String) :
    (shown e).toList = e.fate.mark :: (closed e.element).toList := by
  unfold shown
  cases e.fate <;> simp [Fate.sign, Fate.mark]

/-- A line that has an end is left as it is, and any other gets one. -/
theorem toList_closed {line : String} (h : Text.IsPiece line.toList) :
    ∃ body ending, (closed line).toList = body ++ ending ∧ Text.IsUnbroken body ∧
      ending ∈ Text.lineEnds := by
  obtain ⟨body, ending, hline, hbody, rfl | hending⟩ := h
  · rw [List.append_nil] at hline
    have hopen : Text.isClosedLine line = false := by
      unfold Text.isClosedLine
      rw [hline]
      cases hlast : body.getLast? with
      | none => rfl
      | some c =>
        have hc := List.mem_of_getLast? hlast
        have hfeed : c ≠ '\n' := fun heq => hbody.1 (heq ▸ hc)
        have hreturn : c ≠ '\r' := fun heq => hbody.2 (heq ▸ hc)
        simp [hfeed, hreturn]
    refine ⟨body, ['\n'], ?_, hbody, by decide⟩
    simp [closed, hopen, hline]
  · have hend : Text.isClosedLine line = true :=
      Text.isClosedLine_of_isEnded ⟨ending, hending, body, hline.symm⟩
    refine ⟨body, ending, ?_, hbody, hending⟩
    rw [closed, if_pos hend, hline]

theorem isWholeLine_shown {e : Edit String} (h : Text.IsPiece e.element.toList) :
    Text.IsWholeLine (shown e) := by
  obtain ⟨body, ending, hclosed, hbody, hending⟩ := toList_closed h
  have hmark : e.fate.mark ≠ '\n' ∧ e.fate.mark ≠ '\r' := by cases e.fate <;> decide
  refine ⟨e.fate.mark, body, ending, ?_, Text.isUnbroken_cons.2 ⟨hmark, hbody⟩, hending⟩
  rw [toList_shown, hclosed, List.cons_append]

section Marked

variable {edits : List (Edit String)}

/-- What was printed is cut into the edited lines again. -/
theorem lines_printed (h : ∀ e ∈ edits, Text.IsPiece e.element.toList) :
    Text.lines (Text.concat (edits.map shown)) = edits.map shown :=
  Text.lines_concat_of_isWholeLine (List.forall_mem_map.2 fun e he => isWholeLine_shown (h e he))

theorem isSigned_printed {signs : List Char} (h : ∀ e ∈ edits, Text.IsPiece e.element.toList)
    (hsigns : ∀ e ∈ edits, e.fate.mark ∈ signs) :
    IsSigned signs (Text.concat (edits.map shown)) := by
  unfold IsSigned
  rw [lines_printed h]
  refine List.forall_mem_map.2 fun e he => ⟨_, hsigns e he, ?_⟩
  rw [toList_shown, List.head?_cons]

/-- The lines with some of the signs are the elements with the fates that these are for. -/
theorem marked_printed {signs : List Char} (side : Fate → Bool)
    (hside : ∀ fate, side fate = decide (fate.mark ∈ signs))
    (h : ∀ e ∈ edits, Text.IsPiece e.element.toList) :
    marked signs (Text.concat (edits.map shown)) = (elementsOn side edits).map closed := by
  unfold marked
  rw [lines_printed h]
  clear h
  induction edits with
  | nil => rfl
  | cons e edits ih =>
    by_cases he : e.fate.mark ∈ signs <;>
      simp_all [elementsOn, toList_shown]

/-- The lines with other signs than blanks are those that are not kept. -/
theorem marked_changes (h : ∀ e ∈ edits, Text.IsPiece e.element.toList) :
    marked ['-', '+'] (Text.concat (edits.map shown)) =
      (elementsOn (· ≠ .keep) edits).map closed :=
  marked_printed (· ≠ .keep) (by intro fate; cases fate <;> rfl) h

end Marked

/-! ## Changes -/

/-- The elements on two sides that share no fate make up those on both together. -/
theorem interleaved_elementsOn {α : Type} {one other both : Fate → Bool}
    (hboth : ∀ fate, both fate = (one fate ^^ other fate))
    (hapart : ∀ fate, one fate = false ∨ other fate = false) (edits : List (Edit α)) :
    Interleaved (elementsOn one edits) (elementsOn other edits) (elementsOn both edits) := by
  induction edits with
  | nil => exact .nil
  | cons e edits ih =>
    have hb := hboth e.fate
    cases hone : one e.fate with
    | true =>
      have hother : other e.fate = false := by simpa [hone] using hapart e.fate
      simpa [elementsOn, hone, hother, hb] using Interleaved.left e.element ih
    | false =>
      cases hother : other e.fate with
      | true => simpa [elementsOn, hone, hother, hb] using Interleaved.right e.element ih
      | false => simpa [elementsOn, hone, hother, hb] using ih

/-- Without the kept ones, the elements on a side for changes stay. -/
theorem elementsOn_changes {α : Type} {side : Fate → Bool} (hkeep : side .keep = false)
    (edits : List (Edit α)) :
    elementsOn side (edits.filter (·.fate ≠ .keep)) = elementsOn side edits := by
  have hfilter : (edits.filter (·.fate ≠ .keep)).filter (side ·.fate) =
      edits.filter (side ·.fate) := by
    rw [List.filter_filter]
    apply List.filter_congr
    intro e _
    cases hfate : e.fate <;> simp [hkeep]
  rw [elementsOn, hfilter, elementsOn]

theorem elementsOn_eq_nil_iff {α : Type} {side : Fate → Bool} {edits : List (Edit α)} :
    elementsOn side edits = [] ↔ ∀ e ∈ edits, side e.fate = false := by
  simp [elementsOn]

/-! ## Texts -/

section Texts

variable {old new : String} {edits : List (Edit String)}

/-- Every element of a script between texts is a line of one of them. -/
theorem IsScript.isPiece (h : IsScript (Text.lines old) (Text.lines new) edits) :
    ∀ e ∈ edits, Text.IsPiece e.element.toList := by
  intro e he
  have hmem : e.element ∈ Text.lines old ∨ e.element ∈ Text.lines new := by
    rw [← h.old, ← h.new]
    cases hfate : e.fate
    · exact .inl (List.mem_map_of_mem (List.mem_filter.2 ⟨he, by simp [hfate, Fate.isOld]⟩))
    · exact .inl (List.mem_map_of_mem (List.mem_filter.2 ⟨he, by simp [hfate, Fate.isOld]⟩))
    · exact .inr (List.mem_map_of_mem (List.mem_filter.2 ⟨he, by simp [hfate, Fate.isNew]⟩))
  have hpiece (text : String) (hline : e.element ∈ Text.lines text) :
      Text.IsPiece e.element.toList := by
    obtain ⟨piece, hmem, heq⟩ := List.mem_map.1 hline
    rw [← heq, String.toList_ofList]
    exact Text.isPiece_linesChars _ _ hmem
  exact hmem.elim (hpiece old) (hpiece new)

/-- The changes of any script show how the texts differ. -/
theorem IsScript.showsChanges (h : IsScript (Text.lines old) (Text.lines new) edits) :
    ShowsChanges old new (Text.concat ((edits.filter (·.fate ≠ .keep)).map shown)) := by
  have hpiece : ∀ e ∈ edits.filter (·.fate ≠ .keep), Text.IsPiece e.element.toList :=
    fun e he => h.isPiece e (List.mem_filter.1 he).1
  have hold : Interleaved (elementsOn (· = .drop) edits) (elementsOn (· = .keep) edits)
      (Text.lines old) :=
    h.old ▸ interleaved_elementsOn (by intro fate; cases fate <;> rfl)
      (by intro fate; cases fate <;> simp) edits
  have hnew : Interleaved (elementsOn (· = .add) edits) (elementsOn (· = .keep) edits)
      (Text.lines new) :=
    h.new ▸ interleaved_elementsOn (by intro fate; cases fate <;> rfl)
      (by intro fate; cases fate <;> simp) edits
  refine ⟨isSigned_printed hpiece ?_, _, _, _, hold, hnew, ?_, ?_⟩
  · intro e he
    have hne : e.fate ≠ .keep := by simpa using (List.mem_filter.1 he).2
    cases hfate : e.fate <;> simp_all [Fate.mark]
  · rw [marked_printed (· = .drop) (by intro fate; cases fate <;> rfl) hpiece,
      elementsOn_changes rfl]
  · rw [marked_printed (· = .add) (by intro fate; cases fate <;> rfl) hpiece,
      elementsOn_changes rfl]

/-- Texts with the same lines are equal. -/
theorem lines_inj : Text.lines old = Text.lines new ↔ old = new := by
  refine ⟨fun h => ?_, congrArg _⟩
  rw [← Text.concat_lines old, h, Text.concat_lines]

/-- Any script shows the lines of both texts. -/
theorem IsScript.showsLines (h : IsScript (Text.lines old) (Text.lines new) edits) :
    ShowsLines old new (Text.concat (edits.map shown)) := by
  refine ⟨isSigned_printed h.isPiece ?_, ?_, ?_, ?_, ?_⟩
  · intro e he
    cases e.fate <;> decide
  · rw [marked_printed Fate.isOld (by intro fate; cases fate <;> rfl) h.isPiece]
    exact congrArg _ h.old
  · rw [marked_printed Fate.isNew (by intro fate; cases fate <;> rfl) h.isPiece]
    exact congrArg _ h.new
  · intro line hline
    have hclosed : Text.isClosedLine line = true :=
      (List.mem_append.1 hline).elim Text.isClosedLine_of_mem_dropLast
        Text.isClosedLine_of_mem_dropLast
    exact if_pos hclosed
  · intro hmarked
    rw [marked_changes h.isPiece, List.map_eq_nil_iff, elementsOn_eq_nil_iff] at hmarked
    exact lines_inj.1 (h.eq_of_forall_keep (by simpa using hmarked))

/-- Whatever the texts, their edits are printed faithfully. -/
theorem shows_ofTexts (old new : String) :
    Shows old new (Text.concat ((ofTexts old new).map shown)) := by
  have hscript : IsScript (Text.lines old) (Text.lines new) (ofTexts old new) := isScript_edits _ _
  refine ⟨hscript.showsLines, ?_⟩
  rintro rfl
  rw [marked_changes hscript.isPiece, List.map_eq_nil_iff, elementsOn_eq_nil_iff, ofTexts,
    edits_self]
  simp

end Texts

end CrudForge.Diff
