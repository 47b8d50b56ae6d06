import CrudForge.Text.Split

/-!
# Laws of cutting and joining

Cutting is a homomorphism: a separator between two texts puts the pieces of one behind the pieces
of the other. The pieces are free of the separator, and texts that are free of it come back when
their join is cut.
-/

namespace CrudForge.Text

/-- A place in two texts is in the second, or in the first with all of the second behind it. -/
theorem suffix_append_cases {cs as bs : List Char} (h : cs <:+ as ++ bs) :
    cs <:+ bs ∨ ∃ front, front ≠ [] ∧ front <:+ as ∧ cs = front ++ bs := by
  obtain ⟨before, heq⟩ := h
  rcases List.append_eq_append_iff.1 heq with ⟨front, hfront, rfl⟩ | ⟨behind, -, hbehind⟩
  · by_cases hempty : front = []
    · exact .inl (by simp [hempty])
    · exact .inr ⟨front, hempty, ⟨before, hfront.symm⟩, rfl⟩
  · exact .inl ⟨behind, hbehind.symm⟩

@[simp] theorem cutChars_nil (sep : Char) : cutChars sep [] = [[]] := rfl

@[simp] theorem cutChars_cons_self (sep : Char) (cs : List Char) :
    cutChars sep (sep :: cs) = [] :: cutChars sep cs := by
  rw [cutChars]
  cases h : cutChars sep cs with
  | nil => exact absurd h (cutChars_ne_nil sep cs)
  | cons piece pieces => simp

theorem cutChars_cons_of_ne {sep c : Char} (h : c ≠ sep) (cs : List Char) :
    cutChars sep (c :: cs) = (cutChars sep cs).modifyHead (c :: ·) := by
  rw [cutChars]
  cases hcs : cutChars sep cs with
  | nil => exact absurd hcs (cutChars_ne_nil sep cs)
  | cons piece pieces => simp [h]

/-- A separator between two texts puts their pieces one behind the other. -/
theorem cutChars_append_sep (sep : Char) (as bs : List Char) :
    cutChars sep (as ++ sep :: bs) = cutChars sep as ++ cutChars sep bs := by
  induction as with
  | nil => simp
  | cons c as ih =>
    by_cases h : c = sep
    · subst h
      simp [ih]
    · have hne := cutChars_ne_nil sep as
      rw [List.cons_append, cutChars_cons_of_ne h, cutChars_cons_of_ne h, ih]
      cases hcs : cutChars sep as with
      | nil => exact absurd hcs hne
      | cons piece pieces => simp

theorem cutChars_of_notMem {sep : Char} {cs : List Char} (h : sep ∉ cs) :
    cutChars sep cs = [cs] := by
  induction cs with
  | nil => rfl
  | cons c cs ih =>
    simp only [List.mem_cons, not_or] at h
    rw [cutChars_cons_of_ne (Ne.symm h.1), ih h.2]
    rfl

/-- No piece holds the separator. -/
theorem notMem_of_mem_cutChars {sep : Char} {piece cs : List Char}
    (h : piece ∈ cutChars sep cs) : sep ∉ piece := by
  induction cs generalizing piece with
  | nil => simp_all
  | cons c cs ih =>
    by_cases hc : c = sep
    · subst hc
      rw [cutChars_cons_self, List.mem_cons] at h
      rcases h with rfl | h
      · simp
      · exact ih h
    · rw [cutChars_cons_of_ne hc] at h
      cases hcs : cutChars sep cs with
      | nil => exact absurd hcs (cutChars_ne_nil sep cs)
      | cons head rest =>
        rw [hcs, List.modifyHead_cons, List.mem_cons] at h
        rcases h with rfl | h
        · have hhead := ih (show head ∈ cutChars sep cs by simp [hcs])
          simp [hhead, Ne.symm hc]
        · exact ih (by simp [hcs, h])

/-- Every character of a piece is one of the text. -/
theorem mem_of_mem_cutChars {sep c : Char} {piece cs : List Char}
    (h : piece ∈ cutChars sep cs) (hc : c ∈ piece) : c ∈ cs := by
  induction cs generalizing piece with
  | nil => simp_all
  | cons d cs ih =>
    by_cases hd : d = sep
    · subst hd
      rw [cutChars_cons_self, List.mem_cons] at h
      rcases h with rfl | h
      · simp at hc
      · exact List.mem_cons_of_mem _ (ih h hc)
    · rw [cutChars_cons_of_ne hd] at h
      cases hcs : cutChars sep cs with
      | nil => exact absurd hcs (cutChars_ne_nil sep cs)
      | cons head rest =>
        rw [hcs, List.modifyHead_cons, List.mem_cons] at h
        rcases h with rfl | h
        · rcases List.mem_cons.1 hc with rfl | hc
          · simp
          · exact List.mem_cons_of_mem _ (ih (show head ∈ cutChars sep cs by simp [hcs]) hc)
        · exact List.mem_cons_of_mem _ (ih (by simp [hcs, h]) hc)

/-- A text without the separator belongs to the last piece of the text in front of it. -/
theorem exists_cutChars_append {sep : Char} {bs : List Char} (h : sep ∉ bs) (as : List Char) :
    ∃ front last, cutChars sep as = front ++ [last] ∧
      cutChars sep (as ++ bs) = front ++ [last ++ bs] := by
  induction as with
  | nil => exact ⟨[], [], rfl, cutChars_of_notMem h⟩
  | cons c as ih =>
    obtain ⟨front, last, has, happend⟩ := ih
    by_cases hc : c = sep
    · subst hc
      exact ⟨[] :: front, last, by simp [has], by simp [happend]⟩
    · rw [List.cons_append, cutChars_cons_of_ne hc, cutChars_cons_of_ne hc, has, happend]
      cases front with
      | nil => exact ⟨[], c :: last, rfl, rfl⟩
      | cons piece front => exact ⟨(c :: piece) :: front, last, rfl, rfl⟩

theorem decide_ne_of_notMem {sep : Char} {cs : List Char} (h : sep ∉ cs) :
    ∀ c ∈ cs, decide (c ≠ sep) = true := fun _ hc =>
  decide_eq_true fun heq => h (heq ▸ hc)

theorem cutFirstChars?_append {sep : Char} {as : List Char} (h : sep ∉ as) (bs : List Char) :
    cutFirstChars? sep (as ++ sep :: bs) = some (as, bs) := by
  have has := decide_ne_of_notMem h
  rw [cutFirstChars?, List.dropWhile_append_of_pos has, List.takeWhile_append_of_pos has]
  simp

theorem cutFirstChars?_of_notMem {sep : Char} {cs : List Char} (h : sep ∉ cs) :
    cutFirstChars? sep cs = none := by
  have hdrop : cs.dropWhile (· ≠ sep) = [] := by
    rw [← List.append_nil cs, List.dropWhile_append_of_pos (decide_ne_of_notMem h),
      List.dropWhile_nil]
  rw [cutFirstChars?, hdrop]

@[simp] theorem cut_empty (sep : Char) : cut sep "" = [""] := by
  simp [cut]

theorem notMem_of_mem_cut {sep : Char} {piece s : String} (h : piece ∈ cut sep s) :
    sep ∉ piece.toList := by
  obtain ⟨cs, hcs, rfl⟩ := List.mem_map.1 h
  simpa using notMem_of_mem_cutChars hcs

theorem mem_of_mem_cut {sep c : Char} {piece s : String} (h : piece ∈ cut sep s)
    (hc : c ∈ piece.toList) : c ∈ s.toList := by
  obtain ⟨cs, hcs, rfl⟩ := List.mem_map.1 h
  exact mem_of_mem_cutChars hcs (by simpa using hc)

theorem cut_of_notMem {sep : Char} {s : String} (h : sep ∉ s.toList) : cut sep s = [s] := by
  simp [cut, cutChars_of_notMem h]

theorem cut_append_sep (sep : Char) (a b : String) :
    cut sep (a ++ String.singleton sep ++ b) = cut sep a ++ cut sep b := by
  simp [cut, cutChars_append_sep]

theorem join_append {sep : String} {as bs : List String} (ha : as ≠ []) (hb : bs ≠ []) :
    join sep (as ++ bs) = join sep as ++ sep ++ join sep bs := by
  induction as with
  | nil => exact absurd rfl ha
  | cons a as ih =>
    cases as with
    | nil => exact join_cons sep a hb
    | cons next rest =>
      rw [List.cons_append, join_cons _ _ (by simp), join_cons _ _ (by simp), ih (by simp)]
      simp only [String.append_assoc]

theorem concat_append (as bs : List String) : concat (as ++ bs) = concat as ++ concat bs := by
  induction as with
  | nil => exact String.empty_append.symm
  | cons a as ih =>
    have hcons (texts : List String) : concat (a :: texts) = a ++ concat texts := rfl
    rw [List.cons_append, hcons, hcons, ih, String.append_assoc]

theorem mem_join {c : Char} {sep piece : String} {pieces : List String} (hpiece : piece ∈ pieces)
    (hc : c ∈ piece.toList) : c ∈ (join sep pieces).toList := by
  induction pieces with
  | nil => simp at hpiece
  | cons first rest ih =>
    cases rest with
    | nil =>
      obtain rfl := List.mem_singleton.1 hpiece
      exact hc
    | cons next rest =>
      rw [join_cons _ _ (by simp), String.toList_append, List.mem_append]
      rcases List.mem_cons.1 hpiece with rfl | hpiece
      · exact .inl (by simp [hc])
      · exact .inr (ih hpiece)

theorem notMem_join {c : Char} {sep : String} {pieces : List String} (hsep : c ∉ sep.toList)
    (h : ∀ piece ∈ pieces, c ∉ piece.toList) : c ∉ (join sep pieces).toList := by
  induction pieces with
  | nil => simp [join]
  | cons piece rest ih =>
    obtain ⟨hpiece, hrest⟩ := List.forall_mem_cons.1 h
    cases rest with
    | nil => simpa using hpiece
    | cons next rest =>
      rw [join_cons _ _ (by simp)]
      simp [hpiece, hsep, ih hrest]

/-- The pieces of a join are those of the joined texts. -/
theorem cut_join_eq_flatMap {sep : Char} {texts : List String} (hne : texts ≠ []) :
    cut sep (join (String.singleton sep) texts) = texts.flatMap (cut sep) := by
  induction texts with
  | nil => exact absurd rfl hne
  | cons text rest ih =>
    cases rest with
    | nil => simp
    | cons next rest =>
      rw [join_cons _ _ (by simp), cut_append_sep, ih (by simp)]
      rfl

theorem flatMap_cut_of_notMem {sep : Char} {pieces : List String}
    (h : ∀ piece ∈ pieces, sep ∉ piece.toList) : pieces.flatMap (cut sep) = pieces := by
  induction pieces with
  | nil => rfl
  | cons piece rest ih =>
    obtain ⟨hpiece, hrest⟩ := List.forall_mem_cons.1 h
    rw [List.flatMap_cons, cut_of_notMem hpiece, ih hrest]
    rfl

/-- Texts without the separator come back when their join is cut. -/
theorem cut_join {sep : Char} {pieces : List String} (hne : pieces ≠ [])
    (h : ∀ piece ∈ pieces, sep ∉ piece.toList) :
    cut sep (join (String.singleton sep) pieces) = pieces := by
  rw [cut_join_eq_flatMap hne, flatMap_cut_of_notMem h]

theorem join_append_left (sep a text : String) (rest : List String) :
    join sep ((a ++ text) :: rest) = a ++ join sep (text :: rest) := by
  cases rest with
  | nil => rfl
  | cons next rest => simp only [join, String.append_assoc]

/-- What pads the separator may as well pad all texts but the first. -/
theorem join_append_pad (sep pad text : String) (rest : List String) :
    join (sep ++ pad) (text :: rest) = join sep (text :: rest.map (pad ++ ·)) := by
  induction rest generalizing text with
  | nil => rfl
  | cons next rest ih =>
    calc
      join (sep ++ pad) (text :: next :: rest)
      _ = text ++ (sep ++ pad) ++ join (sep ++ pad) (next :: rest) := rfl
      _ = text ++ sep ++ (pad ++ join sep (next :: rest.map (pad ++ ·))) := by
        rw [ih]
        simp only [String.append_assoc]
      _ = text ++ sep ++ join sep ((pad ++ next) :: rest.map (pad ++ ·)) := by
        rw [join_append_left]

/-- `pieces` are what stands in `s` between the occurrences of `sep`. -/
structure Separates (sep : Char) (s : String) (pieces : List String) : Prop where
  ne_nil : pieces ≠ []
  notMem : ∀ piece ∈ pieces, sep ∉ piece.toList
  join_eq : join (String.singleton sep) pieces = s

theorem cut_ne_nil (sep : Char) (s : String) : cut sep s ≠ [] := by
  simpa [cut] using cutChars_ne_nil sep s.toList

theorem separates_cut (sep : Char) (s : String) : Separates sep s (cut sep s) :=
  ⟨cut_ne_nil sep s, fun _ => notMem_of_mem_cut, join_cut sep s⟩

/-- A text has no other pieces than those of its cut. -/
theorem Separates.eq_cut {sep : Char} {s : String} {pieces : List String}
    (h : Separates sep s pieces) : pieces = cut sep s := by
  rw [← h.join_eq, cut_join h.ne_nil h.notMem]

/-! ## The first cut -/

section First

variable {sep : Char} {s a b : String}

theorem cutFirst?_append (h : sep ∉ a.toList) (b : String) :
    cutFirst? sep (a ++ String.singleton sep ++ b) = some (a, b) := by
  simp [cutFirst?, cutFirstChars?_append h]

theorem cutFirst?_of_notMem (h : sep ∉ s.toList) : cutFirst? sep s = none := by
  simp [cutFirst?, cutFirstChars?_of_notMem h]

theorem notMem_of_cutFirst?_eq_none (h : cutFirst? sep s = none) : sep ∉ s.toList := by
  intro hsep
  obtain ⟨as, bs, hs, has⟩ := List.eq_append_cons_of_mem hsep
  simp [cutFirst?, hs, cutFirstChars?_append has] at h

/-- The first cut is at the first separator. -/
theorem cutFirst?_eq_some (h : cutFirst? sep s = some (a, b)) :
    s = a ++ String.singleton sep ++ b ∧ sep ∉ a.toList := by
  by_cases hsep : sep ∈ s.toList
  · obtain ⟨as, bs, hs, has⟩ := List.eq_append_cons_of_mem hsep
    have hsome : some (String.ofList as, String.ofList bs) = some (a, b) := by
      rw [← h, cutFirst?, hs, cutFirstChars?_append has]
      rfl
    obtain ⟨rfl, rfl⟩ := Prod.mk.inj (Option.some.inj hsome)
    exact ⟨String.toList_inj.1 (by simp [hs]), by simpa using has⟩
  · rw [cutFirst?_of_notMem hsep] at h
    simp at h

end First

end CrudForge.Text
