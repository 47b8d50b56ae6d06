import CrudForge.FileSystem.Store
import CrudForge.Proofs.FileSystem.Walk

/-!
# What writing changes

Setting a file changes the file at the target of its path and nothing else. Making directories
changes no file, and every new directory lies on the way to the one that is wanted. Storing a file
does both, and also when it fails half way the directories are all that is new.

## Main definitions

* `FileSystem.Sets` — one file is set.
* `FileSystem.Grows` — some directories are new.
* `FileSystem.OnWay` — the locations to which the first steps of a path lead.
* `FileSystem.Stores` — the whole effect of storing a file, with the result that was told.
-/

namespace CrudForge.FileSystem

/-- The file at `l` is set to `content`, and all else is as it was. -/
structure Sets (fs fs' : FileSystem) (l : Location) (content : ByteArray) : Prop where
  workingDirectory : fs'.workingDirectory = fs.workingDirectory
  noDirectory : fs.entryAt? l ≠ some .directory
  here : fs'.entryAt? l = some (.file content)
  elsewhere : ∀ {m : Location}, m ≠ l → fs'.entryAt? m = fs.entryAt? m

namespace Sets

variable {fs fs' : FileSystem} {l : Location} {content : ByteArray}

theorem grown (h : Sets fs fs' l content) : Extends fs fs' where
  workingDirectory := h.workingDirectory
  directory := by
    intro m hm
    have hne : m ≠ l := by
      rintro rfl
      exact h.noDirectory hm
    rw [h.elsewhere hne, hm]
  file := by
    intro m old hm
    by_cases hml : m = l
    · subst hml
      exact ⟨content, h.here⟩
    · exact ⟨old, (h.elsewhere hml).trans hm⟩

theorem fileAt (h : Sets fs fs' l content) (m : Location) :
    fs'.fileAt m = if m = l then some content else fs.fileAt m := by
  split
  · rename_i hml
    exact fileAt_eq_some_iff.2 (hml ▸ h.here)
  · rename_i hml
    exact fileAt_congr (h.elsewhere hml)

theorem directory (h : Sets fs fs' l content) {m : Location}
    (hm : fs'.entryAt? m = some .directory) : fs.entryAt? m = some .directory := by
  have hne : m ≠ l := by
    rintro rfl
    simp [h.here] at hm
  rw [← h.elsewhere hne, hm]

end Sets

/-- Some directories are new, all of them at locations in `New`. -/
structure Grows (fs fs' : FileSystem) (New : Location → Prop) : Prop where
  workingDirectory : fs'.workingDirectory = fs.workingDirectory
  kept : ∀ {l : Location} {e : Entry}, fs.entryAt? l = some e → fs'.entryAt? l = some e
  new : ∀ {l : Location} {e : Entry}, fs'.entryAt? l = some e →
    fs.entryAt? l = some e ∨ e = .directory ∧ New l

namespace Grows

variable {fs fs' fs'' : FileSystem} {New New' : Location → Prop}

theorem refl (fs : FileSystem) (New : Location → Prop) : Grows fs fs New :=
  ⟨rfl, id, .inl⟩

theorem mono (h : Grows fs fs' New) (hnew : ∀ l, New l → New' l) : Grows fs fs' New' where
  workingDirectory := h.workingDirectory
  kept := h.kept
  new hl := (h.new hl).imp_right (And.imp_right (hnew _))

theorem trans (h : Grows fs fs' New) (h' : Grows fs' fs'' New) : Grows fs fs'' New where
  workingDirectory := h'.workingDirectory.trans h.workingDirectory
  kept hl := h'.kept (h.kept hl)
  new hl := (h'.new hl).elim h.new .inr

theorem grown (h : Grows fs fs' New) : Extends fs fs' :=
  ⟨h.workingDirectory, h.kept, fun hl => ⟨_, h.kept hl⟩⟩

/-- Making directories changes no file. -/
theorem fileAt (h : Grows fs fs' New) (l : Location) : fs'.fileAt l = fs.fileAt l := by
  refine Option.ext fun content => ?_
  simp only [fileAt_eq_some_iff]
  constructor
  · intro hl
    rcases h.new hl with hl | ⟨hdirectory, -⟩
    · exact hl
    · simp at hdirectory
  · exact h.kept

end Grows

/-! ## One entry -/

theorem place_eq_entry {fs : FileSystem} {p : Path} {parent : Location} {name : FileName}
    {hp : fs.entryAt? parent = some .directory} (h : fs.place p = .ok (.entry parent name hp)) :
    pathFault? p = none ∧
      ∃ steps, p.steps = steps ++ [.down name] ∧ fs.walk (fs.origin p) steps = .ok parent := by
  unfold place at h
  split at h
  · simp at h
  · rename_i hfault
    split at h
    · simp at h
    · rename_i last hlast
      split at h
      · simp at h
      · rename_i l hwalk
        split at h
        · simp at h
        · simp at h
        · split at h
          · rename_i last' name'
            simp only [Except.ok.injEq, Place.entry.injEq] at h
            obtain ⟨rfl, rfl⟩ := h
            obtain ⟨steps, hsteps⟩ := List.getLast?_eq_some_iff.1 hlast
            exact ⟨hfault, steps, hsteps, by simpa [hsteps] using hwalk⟩
          · simp at h

/-- The last name of a path is the entry at its target. -/
theorem target_of_place {fs : FileSystem} {p : Path} {parent : Location} {name : FileName}
    {hp : fs.entryAt? parent = some .directory} (h : fs.place p = .ok (.entry parent name hp)) :
    fs.target p = name :: parent := by
  obtain ⟨-, steps, hsteps, hwalk⟩ := place_eq_entry h
  simp [target, hsteps, eq_follow_of_walk hwalk, Location.follow]

/-- Changing a file sets it at the target of the path, to which the path then leads. -/
theorem sets_of_modifyFile {fs fs' : FileSystem} {p : Path} {change : ByteArray → ByteArray}
    (h : fs.modifyFile p change = .ok fs') :
    Sets fs fs' (fs.target p) (change ((fs.fileAt (fs.target p)).getD .empty)) ∧
      fs'.locate p = .ok (fs.target p) := by
  unfold modifyFile at h
  split at h
  · simp at h
  · simp at h
  · rename_i parent name hparent hplace
    obtain ⟨hfault, steps, hsteps, hwalk⟩ := place_eq_entry hplace
    have htarget := target_of_place hplace
    split at h
    · simp at h
    · rename_i hslash
      split at h
      · simp at h
      · rename_i hlong
        have hsets : Sets fs fs' (fs.target p)
            (change ((fs.fileAt (fs.target p)).getD .empty)) := by
          rw [htarget]
          split at h
          · simp at h
          · rename_i old hold
            obtain rfl := Except.ok.inj h
            refine ⟨rfl, by simp [hold], ?_, fun hm => by simp [entryAt?_put, hm]⟩
            simp [entryAt?_put, fileAt, hold]
          · rename_i hnone
            obtain rfl := Except.ok.inj h
            refine ⟨rfl, by simp [hnone], ?_, fun hm => by simp [entryAt?_put, hm]⟩
            simp [entryAt?_put, fileAt, hnone]
        refine ⟨hsets, locate_eq_ok.2 ⟨hfault, ?_, fun h => absurd h hslash⟩⟩
        have hgrown := hsets.grown
        have hname : (fs'.entryAt? (name :: parent)).isSome := by
          simp [← htarget, hsets.here]
        rw [hgrown.origin, hsteps, walk_append_eq_ok]
        refine ⟨parent, hgrown.walk hwalk, ?_⟩
        rw [walk_down_eq_ok, htarget, walk_nil_eq_ok]
        exact ⟨hgrown.directory hparent, by simpa using hlong, hname, rfl⟩

/-! ## Directories -/

theorem grows_of_createDirectory {fs fs' : FileSystem} {p : Path}
    (h : fs.createDirectory p = .ok fs') : Grows fs fs' (· = fs.target p) := by
  unfold createDirectory at h
  split at h
  · simp at h
  · simp at h
  · rename_i parent name hparent hplace
    have htarget := target_of_place hplace
    split at h
    · simp at h
    · split at h
      · simp at h
      · rename_i hnone
        obtain rfl := Except.ok.inj h
        refine ⟨rfl, fun {l e} hl => ?_, fun {l e} hl => ?_⟩
        · have hne : l ≠ name :: parent := by
            rintro rfl
            simp [hnone] at hl
          rw [entryAt?_put, if_neg hne, hl]
        · rw [entryAt?_put] at hl
          split at hl
          · rename_i hl'
            exact .inr ⟨(Option.some.inj hl).symm, hl'.trans htarget.symm⟩
          · exact .inl hl

/-- Making a chain of directories makes some of them, also when it fails. -/
theorem grows_createChain (fs : FileSystem) (paths : List Path) :
    Grows fs (fs.createChain paths).2 (fun l => ∃ q ∈ paths, l = fs.target q) := by
  induction paths with
  | nil => exact .refl fs _
  | cons p parents ih =>
    have hhead {fs' : FileSystem} (h : fs.createDirectory p = .ok fs') :
        Grows fs fs' (fun l => ∃ q ∈ p :: parents, l = fs.target q) :=
      (grows_of_createDirectory h).mono fun l hl => ⟨p, by simp, hl⟩
    have htail : Grows fs (fs.createChain parents).2
        (fun l => ∃ q ∈ p :: parents, l = fs.target q) :=
      ih.mono fun l ⟨q, hq, hl⟩ => ⟨q, List.mem_cons_of_mem _ hq, hl⟩
    rw [createChain]
    split
    · exact .refl fs _
    · split
      · rename_i fs' hcreate
        exact hhead hcreate
      · split
        · rename_i e fs' hchain
          simpa [hchain] using htail
        · rename_i fs' hchain
          rw [hchain] at htail
          split
          · rename_i fs'' hcreate
            have hlast := grows_of_createDirectory hcreate
            rw [htail.grown.target] at hlast
            exact htail.trans (hlast.mono fun l hl => ⟨p, by simp, hl⟩)
          · split <;> exact htail
      · split <;> exact .refl fs _

/-- The first steps of `p` lead to `l`. -/
def OnWay (fs : FileSystem) (p : Path) (l : Location) : Prop :=
  ∃ steps, steps <+: p.steps ∧ l = (fs.origin p).follow steps

/-- All that is on the way to something exists too. -/
theorem isSome_entryAt?_of_onWay {fs : FileSystem} {p : Path} {l m : Location}
    (hlocate : fs.locate p = .ok m) (hm : (fs.entryAt? m).isSome) (hl : fs.OnWay p l) :
    (fs.entryAt? l).isSome := by
  obtain ⟨steps, ⟨rest, hrest⟩, rfl⟩ := hl
  obtain ⟨-, hwalk, -⟩ := locate_eq_ok.1 hlocate
  rw [← hrest, walk_append_eq_ok] at hwalk
  obtain ⟨k, hk, hrest⟩ := hwalk
  rw [← eq_follow_of_walk hk]
  cases rest with
  | nil =>
    obtain rfl := walk_nil_eq_ok.1 hrest
    exact hm
  | cons step rest =>
    cases step with
    | stay => simp [(walk_stay_eq_ok.1 hrest).1]
    | up => simp [(walk_up_eq_ok.1 hrest).1]
    | down name => simp [(walk_down_eq_ok.1 hrest).1]

/-- The directories that are made for a path lie on its way. -/
theorem grows_createDirectories (fs : FileSystem) (p : Path) :
    Grows fs (fs.createDirectories p).2 (fs.OnWay p) := by
  refine (grows_createChain fs p.ancestors).mono ?_
  rintro l ⟨q, hq, rfl⟩
  obtain ⟨hsteps, habsolute⟩ := Path.steps_of_mem_ancestors hq
  exact ⟨q.steps, hsteps, by simp [target, origin, habsolute]⟩

theorem grows_createParents (fs : FileSystem) (p : Path) :
    Grows fs (fs.createParents p).2 (fs.OnWay p) := by
  unfold createParents
  split
  · exact .refl fs _
  · rename_i parent hparent
    obtain ⟨hsteps, habsolute⟩ := Path.steps_parent hparent
    have hgrows : Grows fs (fs.createDirectories parent).2 (fs.OnWay p) := by
      refine (grows_createDirectories fs parent).mono ?_
      rintro l ⟨steps, hprefix, rfl⟩
      exact ⟨steps, hprefix.trans hsteps, by simp [origin, habsolute]⟩
    split
    all_goals
      rename_i hcreate
      simpa [hcreate] using hgrows

/-! ## Storing a file -/

/-- The effect of storing a file, given what was told: the directories on its way, and the file
itself if that is told to be stored. -/
structure Stores (fs : FileSystem) (p : Path) (change : ByteArray → ByteArray)
    (told : Except WriteError Unit) (fs' : FileSystem) : Prop where
  grown : Extends fs fs'
  directory : ∀ {l : Location}, fs'.entryAt? l = some .directory →
    fs.entryAt? l = some .directory ∨ fs.OnWay p l
  stored : told = .ok () → fs'.locate p = .ok (fs.target p) ∧
    ∀ l, fs'.fileAt l =
      if l = fs.target p then some (change ((fs.fileAt l).getD .empty)) else fs.fileAt l
  failed : ∀ {e : WriteError}, told = .error e → ∀ l, fs'.fileAt l = fs.fileAt l

theorem stores_storeWith (fs : FileSystem) (p : Path) (change : ByteArray → ByteArray) :
    Stores fs p change (fs.storeWith p fun fs' => fs'.modifyFile p change).1
      (fs.storeWith p fun fs' => fs'.modifyFile p change).2 := by
  have hparents := grows_createParents fs p
  have hdirectory {fs' : FileSystem} (h : Grows fs fs' (fs.OnWay p)) {l : Location}
      (hl : fs'.entryAt? l = some .directory) :
      fs.entryAt? l = some .directory ∨ fs.OnWay p l :=
    (h.new hl).imp_right And.right
  unfold storeWith
  split
  · rename_i e fs' hcreate
    rw [hcreate] at hparents
    exact ⟨hparents.grown, hdirectory hparents, nofun, fun _ => hparents.fileAt⟩
  · rename_i fs' hcreate
    rw [hcreate] at hparents
    split
    · rename_i fs'' hmodify
      obtain ⟨hsets, hlocate⟩ := sets_of_modifyFile hmodify
      rw [hparents.grown.target] at hsets hlocate
      refine ⟨hparents.grown.trans hsets.grown, fun hl => hdirectory hparents (hsets.directory hl),
        fun _ => ⟨hlocate, fun l => ?_⟩, nofun⟩
      rw [hsets.fileAt, hparents.fileAt, hparents.fileAt]
      split
      · rename_i hl
        rw [hl]
      · rfl
    · exact ⟨hparents.grown, hdirectory hparents, nofun, fun _ => hparents.fileAt⟩

end CrudForge.FileSystem
