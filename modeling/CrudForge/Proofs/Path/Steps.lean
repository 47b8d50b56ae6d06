import CrudForge.FileSystem.Access
import CrudForge.Proofs.Text.Cut

/-!
# The steps of joined paths and of parents

Joining a relative path puts its steps behind those of the base, and a parent has the first steps of
its child. So all that `Path.ancestors` yields leads along the steps of the path itself.
-/

namespace CrudForge

@[simp] theorem Step.ofSegment?_empty : Step.ofSegment? "" = none := by
  simp [Step.ofSegment?, isFileName]

namespace Path

@[simp] theorem segments_empty : segments ⟨""⟩ = [""] :=
  Text.cut_empty '/'

@[simp] theorem steps_empty : steps ⟨""⟩ = [] := by
  simp [steps]

@[simp] theorem isAbsolute_empty : isAbsolute ⟨""⟩ = false := by
  simp [isAbsolute]

theorem segments_slash (a b : String) :
    segments ⟨a ++ "/" ++ b⟩ = segments ⟨a⟩ ++ segments ⟨b⟩ :=
  Text.cut_append_sep '/' a b

theorem text_of_endsInSlash {p : Path} (h : p.endsInSlash = true) :
    ∃ a, p.text = a ++ "/" := by
  obtain ⟨cs, hcs⟩ := List.getLast?_eq_some_iff.1 (by simpa [endsInSlash] using h)
  exact ⟨String.ofList cs, String.toList_inj.1 (by simp [hcs])⟩

/-- A relative path goes on where its base ends. -/
theorem steps_join {base p : Path} (h : p.isAbsolute = false) :
    (base.join p).steps = base.steps ++ p.steps := by
  unfold join
  rw [if_neg (by simp [h])]
  split
  · rename_i hbase
    rw [Bool.or_eq_true, decide_eq_true_eq] at hbase
    rcases hbase with hempty | hslash
    · have hb : base = ⟨""⟩ := by
        cases base
        simp_all
      simp [hb]
    · obtain ⟨a, ha⟩ := text_of_endsInSlash hslash
      have hb : base = ⟨a ++ "/" ++ ""⟩ := by
        cases base
        simp_all
      rw [ha]
      simp only [steps, hb, segments_slash, List.filterMap_append]
      simp
  · simp only [steps, segments_slash, List.filterMap_append]

theorem isAbsolute_join {base p : Path} (h : p.isAbsolute = false) :
    (base.join p).isAbsolute = base.isAbsolute := by
  unfold join
  rw [if_neg (by simp [h])]
  by_cases hempty : base.text = ""
  · simp only [isAbsolute] at h ⊢
    simp [hempty, h]
  · have hne : base.text.toList ≠ [] := by simpa using hempty
    obtain ⟨c, cs, hcs⟩ := List.exists_cons_of_ne_nil hne
    split <;> simp [isAbsolute, hcs]

theorem endsInSlash_append (a : String) {b : String} (h : b ≠ "") :
    endsInSlash ⟨a ++ b⟩ = endsInSlash ⟨b⟩ := by
  have hne : b.toList ≠ [] := by simpa using h
  obtain ⟨c, hc⟩ := Option.ne_none_iff_exists'.1 (mt List.getLast?_eq_none_iff.1 hne)
  simp [endsInSlash, List.getLast?_append, hc]

theorem endsInSlash_join {base p : Path} (h : p.text ≠ "") :
    (base.join p).endsInSlash = p.endsInSlash := by
  unfold join
  split
  · rfl
  · split <;> exact endsInSlash_append _ h

/-! ## Parents -/

theorem isPrefix_dropIdleEnd (segments : List String) : dropIdleEnd segments <+: segments := by
  have h := List.dropWhile_suffix (l := segments.reverse) isIdle
  simpa [dropIdleEnd] using List.reverse_prefix.2 h

/-- The parts come back from the path that they make, but for the empty one behind the root. -/
theorem steps_ofSpine {first : String} {inner : List String}
    (h : ∀ segment ∈ first :: inner, '/' ∉ segment.toList) :
    (ofSpine (first :: inner)).steps = (first :: inner).filterMap Step.ofSegment? := by
  unfold ofSpine
  split
  · rename_i hroot
    rw [hroot]
    have hsegments : segments ⟨"/"⟩ = ["", ""] := by
      simpa using segments_slash "" ""
    simp [steps, hsegments]
  · exact congrArg _ (Text.cut_join (by simp) h)

theorem isAbsolute_join_parts {first : String} (inner : List String) (h : '/' ∉ first.toList) :
    isAbsolute ⟨Text.join "/" (first :: inner)⟩ = (decide (first = "") && !inner.isEmpty) := by
  by_cases hfirst : first = ""
  · subst hfirst
    cases inner with
    | nil => simp [isAbsolute]
    | cons next rest => simp [isAbsolute, Text.join_cons]
  · have hne : first.toList ≠ [] := by simpa using hfirst
    obtain ⟨c, cs, hcs⟩ := List.exists_cons_of_ne_nil hne
    have hc : c ≠ '/' := by
      rintro rfl
      exact h (by simp [hcs])
    cases inner with
    | nil => simp [isAbsolute, hfirst, hcs, hc]
    | cons next rest => simp [isAbsolute, Text.join_cons, hfirst, hcs, hc]

/-- An absolute path has an empty part in front of its first slash. -/
theorem isAbsolute_of_segments {p : Path} {first : String} {inner : List String}
    (h : p.segments = first :: inner) :
    p.isAbsolute = (decide (first = "") && !inner.isEmpty) := by
  have hp : p = ⟨Text.join "/" (first :: inner)⟩ := by
    cases p
    rw [← h]
    exact congrArg _ (Text.join_cut '/' _).symm
  have hfirst : '/' ∉ first.toList :=
    Text.notMem_of_mem_cut (s := p.text) (by rw [show Text.cut '/' p.text = _ from h]; simp)
  rw [hp, isAbsolute_join_parts inner hfirst]

theorem isAbsolute_ofSpine {first : String} (inner : List String) (h : '/' ∉ first.toList) :
    (ofSpine (first :: inner)).isAbsolute = decide (first = "") := by
  unfold ofSpine
  cases inner with
  | nil =>
    by_cases hfirst : first = ""
    · simp [hfirst, isAbsolute]
    · rw [if_neg (by simp [hfirst]), isAbsolute_join_parts [] h]
      simp [hfirst]
  | cons next rest =>
    rw [if_neg (by simp), isAbsolute_join_parts _ h]
    simp

theorem slash_notMem_of_segments {p : Path} {segment : String} (h : segment ∈ p.segments) :
    '/' ∉ segment.toList :=
  Text.notMem_of_mem_cut (s := p.text) h

/-- A part that is not idle asks for a step that leads away. -/
theorem exists_ofSegment?_of_not_isIdle {segment : String} (h : isIdle segment = false)
    (hslash : '/' ∉ segment.toList) :
    ∃ step, Step.ofSegment? segment = some step ∧ step ≠ .stay := by
  have hsegment : segment ≠ "" ∧ segment ≠ "." := by simpa [isIdle] using h
  by_cases hup : segment = ".."
  · exact ⟨.up, by simp [Step.ofSegment?, hup], by simp⟩
  · have hname : isFileName segment = true := by simp [isFileName, hsegment, hup, hslash]
    exact ⟨.down ⟨segment, hname⟩, by simp [Step.ofSegment?, hsegment.2, hup, hname], by simp⟩

/-- The last of the parts that are kept is not idle. -/
theorem exists_eq_dropIdleEnd {segments : List String} (h : dropIdleEnd segments ≠ []) :
    ∃ last rest, isIdle last = false ∧
      segments = (dropIdleEnd segments).dropLast ++ last :: rest := by
  have hne : segments.reverse.dropWhile isIdle ≠ [] := by simpa [dropIdleEnd] using h
  obtain ⟨idle, hidle⟩ := isPrefix_dropIdleEnd segments
  refine ⟨(dropIdleEnd segments).getLast h, idle, ?_, ?_⟩
  · simpa [dropIdleEnd] using List.head_dropWhile_not isIdle hne
  · rw [List.append_cons, List.dropLast_concat_getLast h, hidle]

/-- A parent is the empty path, or the first parts without one that is not idle and all behind. -/
theorem parent?_eq_some {p q : Path} (h : p.parent? = some q) :
    (q = ⟨""⟩ ∧ p.isAbsolute = false) ∨
      ∃ first inner between last rest, p.segments = first :: (inner ++ between ++ last :: rest) ∧
        isIdle last = false ∧ q = ofSpine (first :: inner) := by
  unfold parent? at h
  split at h
  · exact absurd h (by simp)
  · rename_i first inner hsegments
    simp only at h
    split at h
    · split at h
      · exact absurd h (by simp)
      · rename_i hfirst
        refine .inl ⟨(Option.some.inj h).symm, ?_⟩
        simp [isAbsolute_of_segments hsegments, hfirst]
    · rename_i hkept
      obtain ⟨last, rest, hlast, hinner⟩ := exists_eq_dropIdleEnd (by simpa using hkept)
      obtain ⟨between, hbetween⟩ := isPrefix_dropIdleEnd (dropIdleEnd inner).dropLast
      refine .inr ⟨first, _, between, last, rest, ?_, hlast, (Option.some.inj h).symm⟩
      rw [hsegments, hbetween, ← hinner]

/-- A parent leads along the first steps of the path, from the same start. -/
theorem steps_parent {p q : Path} (h : p.parent? = some q) :
    q.steps <+: p.steps ∧ q.isAbsolute = p.isAbsolute := by
  rcases parent?_eq_some h with
    ⟨rfl, hrelative⟩ | ⟨first, inner, between, last, rest, hsegments, -, rfl⟩
  · simp [hrelative]
  · have hslash {segment : String} (hs : segment ∈ first :: inner) : '/' ∉ segment.toList :=
      slash_notMem_of_segments (p := p) (by rw [hsegments]; grind)
    refine ⟨?_, ?_⟩
    · rw [steps_ofSpine fun _ => hslash, steps, hsegments]
      have hprefix : inner <+: inner ++ between ++ last :: rest :=
        (List.prefix_append _ _).trans (List.prefix_append _ _)
      exact (List.cons_prefix_cons.2 ⟨rfl, hprefix⟩).filterMap _
    · rw [isAbsolute_of_segments hsegments, isAbsolute_ofSpine _ (hslash (by simp))]
      simp

/-- Behind a parent that is not empty, some step of the path leads away. -/
theorem exists_steps_eq_parent_append {p q : Path} (h : p.parent? = some q) (hq : q.text ≠ "") :
    ∃ between step rest, p.steps = q.steps ++ between ++ step :: rest ∧ step ≠ .stay := by
  rcases parent?_eq_some h with
    ⟨rfl, -⟩ | ⟨first, inner, between, last, rest, hsegments, hlast, rfl⟩
  · exact absurd rfl hq
  · have hslash {segment : String} (hs : segment ∈ p.segments) : '/' ∉ segment.toList :=
      slash_notMem_of_segments hs
    rw [hsegments] at hslash
    obtain ⟨step, hstep, hne⟩ := exists_ofSegment?_of_not_isIdle hlast (hslash (by simp))
    refine ⟨between.filterMap Step.ofSegment?, step, rest.filterMap Step.ofSegment?, ?_, hne⟩
    rw [steps_ofSpine fun segment hs => hslash (by grind), steps, hsegments, ← List.cons_append,
      ← List.cons_append, List.filterMap_append, List.filterMap_append,
      List.filterMap_cons_some hstep]

/-- So do all paths on the way up. -/
theorem steps_of_mem_ancestors {p q : Path} (h : q ∈ p.ancestors) :
    q.steps <+: p.steps ∧ q.isAbsolute = p.isAbsolute := by
  have main : ∀ (fuel : Nat) (p : Path), q ∈ ancestorsUpTo fuel p →
      q.steps <+: p.steps ∧ q.isAbsolute = p.isAbsolute := by
    intro fuel
    induction fuel with
    | zero => simp [ancestorsUpTo]
    | succ fuel ih =>
      intro p hq
      rw [ancestorsUpTo] at hq
      split at hq
      · obtain rfl : q = p := by simpa using hq
        exact ⟨List.prefix_refl _, rfl⟩
      · rename_i parent hparent
        rcases List.mem_cons.1 hq with rfl | hq
        · exact ⟨List.prefix_refl _, rfl⟩
        · obtain ⟨hsteps, habsolute⟩ := ih parent hq
          obtain ⟨hsteps', habsolute'⟩ := steps_parent hparent
          exact ⟨hsteps.trans hsteps', habsolute.trans habsolute'⟩
  exact main _ p h

end Path
end CrudForge
