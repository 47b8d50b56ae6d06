import CrudForge.Proofs.FileSystem.Detour

/-!
# Paths that descend

A path without double dots leads down step by step, so whatever lies on its way is above its target.
Storing a file behind such a path makes no directory but above the file, and the path leads to
something exactly if its target exists. So whether it leads anywhere does not depend on what is
stored at places apart from its own.

## Main definitions

* `Path.Descends` — the path has no double dots.
* `Location.Above` — one location is on the way from the root to another.
* `FileSystem.Confined` — only what some paths lead to changes.
-/

namespace CrudForge

namespace Path

/-- The path has no double dots. -/
def Descends (p : Path) : Prop :=
  .up ∉ p.components

instance (p : Path) : Decidable p.Descends :=
  inferInstanceAs (Decidable (.up ∉ p.components))

theorem up_mem_components {p : Path} : .up ∈ p.components ↔ ".." ∈ p.segments := by
  have hinner (segments : List String) :
      .up ∈ segments.filterMap innerComponent? ↔ ".." ∈ segments := by
    simp only [List.mem_filterMap, innerComponent?]
    constructor
    · rintro ⟨segment, hsegment, hup⟩
      grind
    · intro h
      exact ⟨"..", h, by decide⟩
  unfold components
  split
  · rename_i h
    simp [h]
  · rename_i h
    simp [h]
  · rename_i inner _ h
    simp [h, hinner]
  · rename_i inner h
    simp [h, hinner]
  · exact hinner _

theorem up_mem_steps {p : Path} : .up ∈ p.steps ↔ ".." ∈ p.segments := by
  simp only [steps, List.mem_filterMap, Step.ofSegment?]
  constructor
  · rintro ⟨segment, hsegment, hup⟩
    grind
  · intro h
    exact ⟨"..", h, by decide⟩

/-- A path without double dots never steps up. -/
theorem descends_iff {p : Path} : p.Descends ↔ .up ∉ p.steps := by
  rw [Descends, up_mem_components, up_mem_steps]

end Path

namespace Location

variable {l m k : Location}

/-- The location `l` is on the way from the root to `m`. -/
def Above (l m : Location) : Prop :=
  l <:+ m ∧ l ≠ m

theorem above_cons (name : FileName) (h : l <:+ m) : Above l (name :: m) := by
  refine ⟨h.trans (List.suffix_cons name m), ?_⟩
  rintro rfl
  have hlength := h.length_le
  rw [List.length_cons] at hlength
  omega

theorem Above.trans_suffix (h : Above l m) (hm : m <:+ k) : Above l k := by
  refine ⟨h.1.trans hm, ?_⟩
  rintro rfl
  exact h.2 (h.1.eq_of_length_le hm.length_le)

end Location

namespace FileSystem

variable {fs : FileSystem} {p q : Path} {l : Location}

/-- What is on the way to the parent is above the target. -/
theorem above_of_onWay_parent (hp : p.Descends) (hparent : p.parent? = some q) (hq : q.text ≠ "")
    (hl : fs.OnWay q l) : l.Above (fs.target p) := by
  obtain ⟨between, step, rest, hsteps, hstep⟩ := Path.exists_steps_eq_parent_append hparent hq
  obtain ⟨first, ⟨more, hmore⟩, rfl⟩ := hl
  have hup := Path.descends_iff.1 hp
  rw [hsteps, ← hmore] at hup
  have habsolute := (Path.steps_parent hparent).2
  rw [target, hsteps, ← hmore, origin, origin, habsolute]
  simp only [List.append_assoc, Location.follow_append]
  cases step with
  | stay => exact absurd rfl hstep
  | up => simp at hup
  | down name =>
    have hway : (fs.origin p).follow first <:+
        (((fs.origin p).follow first).follow more).follow between :=
      (suffix_follow (by grind)).trans (suffix_follow (by grind))
    exact (Location.above_cons name hway).trans_suffix (suffix_follow (by grind))

theorem createDirectories_of_text_eq_empty (hq : q.text = "") :
    fs.createDirectories q = (.ok (), fs) := by
  rw [createDirectories, Path.ancestors, Path.ancestorsUpTo]
  split <;> simp [createChain, hq]

/-- The directories that are made for a path without double dots are above its target. -/
theorem grows_createParents_above (fs : FileSystem) (hp : p.Descends) :
    Grows fs (fs.createParents p).2 (Location.Above · (fs.target p)) := by
  unfold createParents
  split
  · exact .refl fs _
  · rename_i q hparent
    have hgrows : Grows fs (fs.createDirectories q).2 (Location.Above · (fs.target p)) := by
      by_cases hq : q.text = ""
      · rw [createDirectories_of_text_eq_empty hq]
        exact .refl fs _
      · exact (grows_createDirectories fs q).mono fun l hl => above_of_onWay_parent hp hparent hq hl
    split
    all_goals
      rename_i hcreate
      simpa [hcreate] using hgrows

/-- Storing a file behind a path without double dots makes no directory but above the file. -/
theorem directory_storeWith (hp : p.Descends) {change : ByteArray → ByteArray}
    (hl : (fs.storeWith p fun fs' => fs'.modifyFile p change).2.entryAt? l = some .directory) :
    fs.entryAt? l = some .directory ∨ l.Above (fs.target p) := by
  have hparents := grows_createParents_above fs hp
  have hdirectory {fs' : FileSystem} (h : Grows fs fs' (Location.Above · (fs.target p)))
      (hl : fs'.entryAt? l = some .directory) :
      fs.entryAt? l = some .directory ∨ l.Above (fs.target p) := (h.new hl).imp_right And.right
  unfold storeWith at hl
  split at hl
  · rename_i e fs' hcreate
    rw [hcreate] at hparents
    exact hdirectory hparents hl
  · rename_i fs' hcreate
    rw [hcreate] at hparents
    split at hl
    · rename_i fs'' hmodify
      exact hdirectory hparents ((sets_of_modifyFile hmodify).1.directory hl)
    · exact hdirectory hparents hl

/-- A path without double dots leads to an old entry before, if it does so later. -/
theorem exists?_eq_true_iff_isSome {fs' : FileSystem} (h : Extends fs fs') (hp : p.Descends)
    (hlocate : fs'.locate p = .ok (fs.target p)) :
    fs.exists? p = true ↔ (fs.entryAt? (fs.target p)).isSome := by
  constructor
  · intro hexists
    obtain ⟨l, hl, hsome⟩ := exists?_eq_true.1 hexists
    rwa [← eq_target_of_locate hl]
  · intro hsome
    rw [exists?_eq_true_iff_not_detours h hlocate hsome]
    exact not_detours_of_notMem (Path.descends_iff.1 hp) hsome

/-! ## What does not change -/

/-- Nothing is removed, files change at most at the targets of the paths, and new directories are
above them. -/
structure Confined (fs fs' : FileSystem) (paths : List Path) : Prop where
  grown : Extends fs fs'
  files : ∀ l, (∀ p ∈ paths, l ≠ fs.target p) → fs'.fileAt l = fs.fileAt l
  directories : ∀ l, fs'.entryAt? l = some .directory →
    fs.entryAt? l = some .directory ∨ ∃ p ∈ paths, l.Above (fs.target p)

namespace Confined

variable {fs' fs'' : FileSystem} {paths more : List Path}

theorem refl (fs : FileSystem) (paths : List Path) : Confined fs fs paths :=
  ⟨.refl fs, fun _ _ => rfl, fun _ => .inl⟩

theorem mono (h : Confined fs fs' paths) (hmore : paths ⊆ more) : Confined fs fs' more where
  grown := h.grown
  files l hl := h.files l fun p hp => hl p (hmore hp)
  directories l hl := (h.directories l hl).imp_right fun ⟨p, hp, habove⟩ => ⟨p, hmore hp, habove⟩

theorem trans (h : Confined fs fs' paths) (h' : Confined fs' fs'' more) :
    Confined fs fs'' (paths ++ more) where
  grown := h.grown.trans h'.grown
  files l hl := by
    rw [h'.files l fun p hp => h.grown.target p ▸ hl p (List.mem_append_right _ hp)]
    exact h.files l fun p hp => hl p (List.mem_append_left _ hp)
  directories l hl := by
    rcases h'.directories l hl with hl | ⟨p, hp, habove⟩
    · exact (h.mono (List.subset_append_left _ _)).directories l hl
    · exact .inr ⟨p, List.mem_append_right _ hp, h.grown.target p ▸ habove⟩

/-- A path leads anywhere as before if its target is neither one of the targets nor above one. -/
theorem exists?_eq (h : Confined fs fs' paths) (hp : p.Descends)
    (hapart : ∀ q ∈ paths, ¬fs.target p <:+ fs.target q) : fs'.exists? p = fs.exists? p := by
  rw [Bool.eq_iff_iff]
  constructor
  · intro hexists
    obtain ⟨l, hlocate, hsome⟩ := exists?_eq_true.1 hexists
    obtain rfl := eq_target_of_locate hlocate
    rw [h.grown.target] at hlocate hsome
    refine (exists?_eq_true_iff_isSome h.grown hp hlocate).2 ?_
    obtain ⟨e, he⟩ := Option.isSome_iff_exists.1 hsome
    cases e with
    | directory =>
      rcases h.directories _ he with hold | ⟨q, hq, habove⟩
      · simp [hold]
      · exact absurd habove.1 (hapart q hq)
    | file content =>
      have hsame : fs'.fileAt (fs.target p) = fs.fileAt (fs.target p) :=
        h.files _ fun q hq heq => hapart q hq (heq ▸ List.suffix_refl _)
      have hold : fs.fileAt (fs.target p) = some content :=
        hsame.symm.trans (fileAt_eq_some_iff.2 he)
      simp [fileAt_eq_some_iff.1 hold]
  · exact h.grown.exists?

end Confined

theorem confined_storeWith (hp : p.Descends) (change : ByteArray → ByteArray) :
    Confined fs (fs.storeWith p fun fs' => fs'.modifyFile p change).2 [p] := by
  have hstores := stores_storeWith fs p change
  refine ⟨hstores.grown, fun l hl => ?_, fun l hl => ?_⟩
  · cases htold : (fs.storeWith p fun fs' => fs'.modifyFile p change).1 with
    | ok _ => rw [(hstores.stored htold).2, if_neg (hl p (by simp))]
    | error e => exact hstores.failed htold l
  · simpa using directory_storeWith hp hl

end FileSystem
end CrudForge
