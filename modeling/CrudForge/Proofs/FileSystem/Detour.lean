import CrudForge.Proofs.FileSystem.Writes

/-!
# Detours

A path can lead through a directory and up again. If that directory is missing, the path leads
nowhere, even if there is a file where it would end; once the directory is made, it leads to that
file. Apart from these detours, a path that leads to an old file later does so from the start.

## Main definitions

* `FileSystem.Detours` — a path that leads through something that is missing.
-/

namespace CrudForge.FileSystem

/-- Something on the way of `p` is missing. -/
def Detours (fs : FileSystem) (p : Path) : Prop :=
  ∃ l, fs.OnWay p l ∧ fs.entryAt? l = none

variable {fs fs' : FileSystem} {p : Path}

/-- A later walk was possible before if nothing on its way was missing. -/
theorem Extends.walk_of_isSome (h : Extends fs fs') {l m : Location} {steps : List Step}
    (hwalk : fs'.walk l steps = .ok m)
    (hway : ∀ first, first <+: steps → (fs.entryAt? (l.follow first)).isSome) :
    fs.walk l steps = .ok m := by
  have hl : (fs.entryAt? l).isSome := hway [] List.nil_prefix
  induction steps generalizing l with
  | nil => simpa using hwalk
  | cons step steps ih =>
    have hrest (first : List Step) (hfirst : first <+: steps) :
        (fs.entryAt? (l.follow (step :: first))).isSome :=
      hway (step :: first) (List.cons_prefix_cons.2 ⟨rfl, hfirst⟩)
    have hnext := hrest [] List.nil_prefix
    cases step with
    | stay =>
      obtain ⟨hdirectory, hwalk⟩ := walk_stay_eq_ok.1 hwalk
      exact walk_stay_eq_ok.2 ⟨h.directory_of_isSome hdirectory hl, ih hwalk hrest hnext⟩
    | up =>
      obtain ⟨hdirectory, hwalk⟩ := walk_up_eq_ok.1 hwalk
      exact walk_up_eq_ok.2 ⟨h.directory_of_isSome hdirectory hl, ih hwalk hrest hnext⟩
    | down name =>
      obtain ⟨hdirectory, hlong, -, hwalk⟩ := walk_down_eq_ok.1 hwalk
      exact walk_down_eq_ok.2
        ⟨h.directory_of_isSome hdirectory hl, hlong, hnext, ih hwalk hrest hnext⟩

/-- A path that leads later to what is there before leads there before, unless it detours. -/
theorem exists?_eq_true_iff_not_detours (h : Extends fs fs')
    (hlocate : fs'.locate p = .ok (fs.target p)) (hold : (fs.entryAt? (fs.target p)).isSome) :
    fs.exists? p = true ↔ ¬fs.Detours p := by
  constructor
  · rintro hexists ⟨l, hway, hnone⟩
    obtain ⟨m, hm, hsome⟩ := exists?_eq_true.1 hexists
    simpa [hnone] using isSome_entryAt?_of_onWay hm hsome hway
  · intro hno
    have hway : ∀ first, first <+: p.steps → (fs.entryAt? ((fs.origin p).follow first)).isSome := by
      intro first hfirst
      refine Option.isSome_iff_ne_none.2 fun hnone => ?_
      exact hno ⟨_, ⟨first, hfirst, rfl⟩, hnone⟩
    obtain ⟨hfault, hwalk, hslash⟩ := locate_eq_ok.1 hlocate
    rw [h.origin] at hwalk
    refine exists?_eq_true.2 ⟨fs.target p, locate_eq_ok.2 ⟨hfault, ?_, fun hp => ?_⟩, hold⟩
    · exact h.walk_of_isSome hwalk hway
    · exact h.directory_of_isSome (hslash hp) hold

/-- What holds an entry exists, all the way up. -/
theorem isSome_entryAt?_of_suffix {l m : Location} (hm : (fs.entryAt? m).isSome) (hl : l <:+ m) :
    (fs.entryAt? l).isSome := by
  induction m with
  | nil =>
    obtain rfl := List.suffix_nil.1 hl
    exact hm
  | cons name parent ih =>
    rcases List.suffix_cons_iff.1 hl with rfl | hl
    · exact hm
    · obtain ⟨e, he⟩ := Option.isSome_iff_exists.1 hm
      exact ih (by simp [entryAt?_parent he]) hl

theorem suffix_follow {l : Location} {steps : List Step} (h : .up ∉ steps) :
    l <:+ l.follow steps := by
  fun_induction Location.follow l steps with
  | case1 => exact List.suffix_refl _
  | case2 l steps ih => exact ih (by simpa using h)
  | case3 => simp at h
  | case4 l name steps ih => exact (List.suffix_cons name l).trans (ih (by simpa using h))

/-- A path that never leads up does not detour on its way to something. -/
theorem not_detours_of_notMem (hup : .up ∉ p.steps) (hold : (fs.entryAt? (fs.target p)).isSome) :
    ¬fs.Detours p := by
  rintro ⟨l, ⟨first, ⟨rest, hrest⟩, rfl⟩, hnone⟩
  have hup : .up ∉ rest := fun h => hup (hrest ▸ List.mem_append_right first h)
  have hsuffix : (fs.origin p).follow first <:+ fs.target p := by
    rw [target, ← hrest, Location.follow_append]
    exact suffix_follow hup
  simpa [hnone] using isSome_entryAt?_of_suffix hold hsuffix

end CrudForge.FileSystem
