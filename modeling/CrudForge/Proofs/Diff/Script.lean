import CrudForge.Diff.Lines

/-!
# What a script relates

However the middle of a script is found and however its chunks are moved, the elements that are kept
or dropped are the old list, and those that are kept or added are the new one. Both are said at once
of a side: the fates of the elements of one of the lists.

## Main definitions

* `Diff.IsSide` — the fates of the old list, or those of the new one.
* `Diff.part`, `Diff.elementsOn` — what a script and its edits have on one side.
* `Diff.Leads` — a script that leads from one list to another.
* `Diff.IsScript` — edits that do.
-/

namespace CrudForge.Diff

variable {α : Type}

/-- What is kept is on a side, but what is dropped and what is added are never both on it. -/
structure IsSide (side : Fate → Bool) : Prop where
  keep : side .keep = true
  apart : side .drop = false ∨ side .add = false

theorem isSide_isOld : IsSide Fate.isOld :=
  ⟨rfl, .inr rfl⟩

theorem isSide_isNew : IsSide Fate.isNew :=
  ⟨rfl, .inl rfl⟩

/-- The elements of a script on one side. -/
def part (side : Fate → Bool) (script : List (Chunk α)) : List α :=
  script.flatMap fun c => if side c.fate then c.elements else []

/-- The elements of edits on one side. -/
def elementsOn (side : Fate → Bool) (edits : List (Edit α)) : List α :=
  (edits.filter (side ·.fate)).map (·.element)

section Part

variable {side : Fate → Bool} {fate : Fate} {script : List (Chunk α)}

@[simp] theorem part_nil : part side ([] : List (Chunk α)) = [] :=
  rfl

@[simp] theorem part_cons (c : Chunk α) :
    part side (c :: script) = (if side c.fate then c.elements else []) ++ part side script :=
  List.flatMap_cons

@[simp] theorem part_append (s t : List (Chunk α)) :
    part side (s ++ t) = part side s ++ part side t :=
  List.flatMap_append

theorem part_keepInFront (hside : IsSide side) (a : α) (script : List (Chunk α)) :
    part side (keepInFront a script) = a :: part side script := by
  unfold keepInFront
  split <;> simp [hside.keep]

/-- The chunks are reversed, so the kept element comes last. -/
theorem part_reverse_keepAtEnd (hside : IsSide side) (a : α) (before : List (Chunk α)) :
    part side (keepAtEnd a before).reverse = part side before.reverse ++ [a] := by
  unfold keepAtEnd
  split <;> simp [hside.keep]

/-- Two chunks of different fates, neither of them kept, may change places. -/
theorem part_swap (hside : IsSide side) {c d : Chunk α} (hc : c.fate ≠ .keep) (hd : d.fate ≠ .keep)
    (hne : c.fate ≠ d.fate) : part side (c :: d :: script) = part side (d :: c :: script) := by
  have hone : side c.fate = false ∨ side d.fate = false := by
    have hapart := hside.apart
    cases hcfate : c.fate <;> cases hdfate : d.fate <;> simp_all [or_comm]
  rcases hone with h | h <;> simp [h]

end Part

/-! ## Moving chunks -/

section Moves

variable [DecidableEq α] {side : Fate → Bool}

omit [DecidableEq α] in
theorem part_focus (f : Focus α) :
    part side f.script = part side f.before.reverse ++ part side (f.chunk :: f.behind) :=
  part_append ..

/-- A chunk that moves towards the start leaves both lists as they are. -/
theorem part_raise (hside : IsSide side) (f : Focus α) :
    part side (raise f).script = part side f.script := by
  fun_induction raise f with
  | case1 => rfl
  | case2 elements before chunk behind hnone ih =>
    obtain rfl := List.getLast?_eq_none_iff.1 hnone
    simpa [part_focus] using ih
  | case3 elements before chunk behind a b hkept hadded hpass ih =>
    obtain ⟨hfate, rfl⟩ : chunk.fate = .add ∧ a = b := by simpa using hpass
    obtain ⟨kept, rfl⟩ := List.getLast?_eq_some_iff.1 hkept
    obtain ⟨added, hchunk⟩ := List.getLast?_eq_some_iff.1 hadded
    rw [ih, part_focus, part_focus]
    cases hside' : side .add <;>
      simp [hside.keep, hside', hfate, hchunk, part_keepInFront hside]
  | case4 => rfl
  | case5 => rfl
  | case6 other before chunk behind hkeep hsame ih =>
    rw [ih, part_focus, part_focus]
    cases hside' : side chunk.fate <;> simp [hsame, hside']
  | case7 => rfl
  | case8 other before chunk behind hkeep hother hchunk ih =>
    have hne : other.fate ≠ .keep := fun h => hkeep other.elements (h ▸ rfl)
    rw [ih, part_focus, part_focus, part_swap hside hchunk hne (Ne.symm hother)]
    simp

/-- A chunk that moves towards the end leaves both lists as they are. -/
theorem part_lower (hside : IsSide side) (f : Focus α) :
    part side (lower f).script = part side f.script := by
  fun_induction lower f with
  | case1 => rfl
  | case2 before chunk behind ih => simpa [part_focus] using ih
  | case3 => rfl
  | case4 before chunk a kept behind b added hchunk hpass ih =>
    obtain ⟨hfate, rfl⟩ : chunk.fate = .add ∧ a = b := by simpa using hpass
    rw [ih, part_focus, part_focus, part_reverse_keepAtEnd hside]
    cases hside' : side .add <;> simp [hside.keep, hside', hfate, hchunk]
  | case5 => rfl
  | case6 before chunk other behind _ _ hsame ih =>
    rw [ih, part_focus, part_focus]
    cases hside' : side chunk.fate <;> simp [hsame, hside']
  | case7 => rfl
  | case8 before chunk other behind hempty hkeep hother hchunk ih =>
    have hne : other.fate ≠ .keep := by
      rintro h
      cases helements : other.elements with
      | nil => exact hempty (by cases other; simp_all)
      | cons a kept => exact hkeep a kept (by cases other; simp_all)
    rw [ih, part_focus, part_focus, part_swap hside hchunk hne (Ne.symm hother)]
    simp

/-- Moving the chunks of one fate leaves both lists as they are. -/
theorem part_compactFate (hside : IsSide side) (fate : Fate) (fuel : Nat)
    (before script : List (Chunk α)) :
    part side (compactFate fate fuel before script) = part side (before.reverse ++ script) := by
  fun_induction compactFate fate fuel before script with
  | case1 => rfl
  | case2 => simp
  | case3 fuel before chunk script hfate f ih =>
    have hmoved : part side f.script = part side (before.reverse ++ chunk :: script) :=
      (part_lower hside _).trans (part_raise hside _)
    rw [ih, ← hmoved, Focus.script]
    simp
  | case4 fuel before chunk script hfate ih =>
    rw [ih]
    simp

theorem part_compact (hside : IsSide side) (script : List (Chunk α)) :
    part side (compact script) = part side script := by
  unfold compact
  rw [part_compactFate hside, List.reverse_nil, List.nil_append, part_compactFate hside]
  rfl

/-- A script without chunks to move stays as it is. -/
theorem compactFate_of_forall_ne {fate : Fate} {script : List (Chunk α)}
    (h : ∀ c ∈ script, c.fate ≠ fate) (fuel : Nat) (before : List (Chunk α)) :
    compactFate fate fuel before script = before.reverse ++ script := by
  fun_induction compactFate fate fuel before script with
  | case1 => rfl
  | case2 => simp
  | case3 fuel before chunk script hfate => exact absurd hfate (h chunk (by simp))
  | case4 fuel before chunk script hfate ih =>
    rw [ih (fun c hc => h c (List.mem_cons_of_mem _ hc))]
    simp

theorem compact_of_forall_keep {script : List (Chunk α)} (h : ∀ c ∈ script, c.fate = .keep) :
    compact script = script := by
  have hne (fate : Fate) (hfate : fate ≠ .keep) : ∀ c ∈ script, c.fate ≠ fate := by
    intro c hc hsame
    exact hfate (hsame.symm.trans (h c hc))
  rw [compact, compactFate_of_forall_ne (hne .drop (by simp)), List.reverse_nil, List.nil_append,
    compactFate_of_forall_ne (hne .add (by simp))]
  rfl

end Moves

/-! ## Finding a script -/

/-- What a script keeps or drops is the list `old`, and what it keeps or adds is `new`. -/
structure Leads (old new : List α) (script : List (Chunk α)) : Prop where
  old : oldOf script = old
  new : newOf script = new

namespace Leads

theorem append {old new old' new' : List α} {s t : List (Chunk α)} (h : Leads old new s)
    (h' : Leads old' new' t) : Leads (old ++ old') (new ++ new') (s ++ t) :=
  ⟨by rw [oldOf_append, h.old, h'.old], by rw [newOf_append, h.new, h'.new]⟩

theorem keep (list : List α) : Leads list list (Chunk.unlessEmpty .keep list) :=
  ⟨oldOf_unlessEmpty .keep list, newOf_unlessEmpty .keep list⟩

theorem exchange (old new : List α) : Leads old new (exchange old new) :=
  ⟨oldOf_exchange old new, newOf_exchange old new⟩

end Leads

section Find

variable [DecidableEq α]

/-- The common start is a start of both lists. -/
theorem commonStart_prefix (old new : List α) :
    commonStart old new <+: old ∧ commonStart old new <+: new := by
  fun_induction commonStart old new with
  | case1 a as bs ih => simpa [List.cons_prefix_cons] using ih
  | case2 => simp
  | case3 => simp

/-- The common start of the reversed lists is, reversed, an end of both lists. -/
theorem commonStart_reverse_suffix (old new : List α) :
    (commonStart old.reverse new.reverse).reverse <:+ old ∧
      (commonStart old.reverse new.reverse).reverse <:+ new := by
  obtain ⟨hold, hnew⟩ := commonStart_prefix old.reverse new.reverse
  exact ⟨List.reverse_prefix.1 (by simpa using hold), List.reverse_prefix.1 (by simpa using hnew)⟩

omit [DecidableEq α] in
/-- A list is a start, an end of the rest, and what is between. -/
theorem append_between {list start stop : List α} (hstart : start <+: list)
    (hstop : stop <:+ list.drop start.length) :
    start ++ ((list.drop start.length).take ((list.drop start.length).length - stop.length) ++
      stop) = list := by
  rw [List.suffix_iff_eq_append.1 hstop]
  exact List.prefix_iff_eq_append.1 hstart

@[simp] theorem commonStart_self (list : List α) : commonStart list list = list := by
  induction list with
  | nil => rfl
  | cons a as ih => simp [commonStart, ih]

/-- Wherever the middle is cut, the pieces make up the lists again. -/
theorem leads_scriptUpTo (fuel : Nat) (old new : List α) :
    Leads old new (scriptUpTo fuel old new) := by
  induction fuel generalizing old new with
  | zero => exact .exchange old new
  | succ fuel ih =>
    unfold scriptUpTo
    extract_lets start oldRest newRest stop oldCore newCore core
    have hcore : Leads oldCore newCore core := by
      unfold core
      split
      · exact .exchange oldCore newCore
      · split
        · exact .exchange oldCore newCore
        · rename_i x y _
          simpa using (ih (oldCore.take x) (newCore.take y)).append
            (ih (oldCore.drop x) (newCore.drop y))
    obtain ⟨holdStart, hnewStart⟩ := commonStart_prefix old new
    obtain ⟨holdStop, hnewStop⟩ := commonStart_reverse_suffix oldRest newRest
    have hold : start ++ (oldCore ++ stop) = old := append_between holdStart holdStop
    have hnew : start ++ (newCore ++ stop) = new := append_between hnewStart hnewStop
    have hwhole := (Leads.keep start).append (hcore.append (.keep stop))
    rwa [hold, hnew, ← List.append_assoc] at hwhole

/-- The old list of a script is its part on the old side, and the new one that on the new side. -/
theorem leads_script (old new : List α) : Leads old new (script old new) := by
  obtain ⟨hold, hnew⟩ := leads_scriptUpTo (old.length + new.length + 1) old new
  exact ⟨(part_compact isSide_isOld _).trans hold, (part_compact isSide_isNew _).trans hnew⟩

/-- Between equal lists everything is kept. -/
theorem script_self (list : List α) : script list list = Chunk.unlessEmpty .keep list := by
  have hfound : scriptUpTo (list.length + list.length + 1) list list =
      Chunk.unlessEmpty .keep list := by
    simp [scriptUpTo, exchange, Chunk.unlessEmpty]
  rw [script, hfound]
  apply compact_of_forall_keep
  intro c hc
  unfold Chunk.unlessEmpty at hc
  split at hc <;> simp_all

end Find

/-! ## Edits in order -/

section InOrder

variable {side : Fate → Bool}

theorem elementsOn_append (s t : List (Edit α)) :
    elementsOn side (s ++ t) = elementsOn side s ++ elementsOn side t := by
  simp [elementsOn]

theorem elementsOn_map (fate : Fate) (elements : List α) :
    elementsOn side (elements.map (⟨fate, ·⟩)) = if side fate then elements else [] := by
  have hfilter : (elements.map (⟨fate, ·⟩ : α → Edit α)).filter (side ·.fate) =
      if side fate then elements.map (⟨fate, ·⟩) else [] := by
    cases h : side fate <;> simp [List.filter_eq_self, h]
  unfold elementsOn
  rw [hfilter]
  split
  · rw [List.map_map]
    exact List.map_id' elements
  · rfl

/-- What waits to be shown is not on the same side, so it may wait. -/
theorem elementsOn_inOrderFrom (hside : IsSide side) (dropped added : List α)
    (script : List (Chunk α)) :
    elementsOn side (inOrderFrom dropped added script) =
      (if side .drop then dropped else []) ++ (if side .add then added else []) ++
        part side script := by
  fun_induction inOrderFrom dropped added script with
  | case1 => simp [elementsOn_append, elementsOn_map]
  | case2 dropped added elements script ih =>
    simp [elementsOn_append, elementsOn_map, ih, hside.keep]
  | case3 dropped added elements script ih =>
    -- if dropped elements are on the side, no added ones stand in front of them
    rw [ih, part_cons]
    rcases hside.apart with h | h <;> simp only [h] <;> cases side .drop <;> simp
  | case4 dropped added elements script ih =>
    rw [ih, part_cons]
    cases side .add <;> simp

/-- The edits that are not added show `old`, and those that are not dropped show `new`. -/
structure IsScript (old new : List α) (edits : List (Edit α)) : Prop where
  old : oldElements edits = old
  new : newElements edits = new

/-- Lists that differ have no script that keeps everything. -/
theorem IsScript.eq_of_forall_keep {old new : List α} {edits : List (Edit α)}
    (h : IsScript old new edits) (hkeep : ∀ e ∈ edits, e.fate = .keep) : old = new := by
  have hfilter : edits.filter (·.fate.isOld) = edits.filter (·.fate.isNew) := by
    apply List.filter_congr
    intro e he
    simp [hkeep e he, Fate.isOld, Fate.isNew]
  calc old
    _ = oldElements edits := h.old.symm
    _ = newElements edits := by rw [oldElements, newElements, hfilter]
    _ = new := h.new

variable [DecidableEq α]

theorem isScript_edits (old new : List α) : IsScript old new (edits old new) := by
  obtain ⟨hold, hnew⟩ := leads_script old new
  exact ⟨(elementsOn_inOrderFrom isSide_isOld [] [] _).trans hold,
    (elementsOn_inOrderFrom isSide_isNew [] [] _).trans hnew⟩

/-- Equal lists are kept as they are. -/
theorem edits_self (list : List α) : edits list list = list.map (⟨.keep, ·⟩) := by
  cases list <;> simp [edits, script_self, inOrder, inOrderFrom, Chunk.unlessEmpty]

end InOrder

end CrudForge.Diff
