import CrudForge.Proofs.FileSystem.Descent
import CrudForge.Proofs.Generation.Commit
import Mathlib.Data.List.Nodup

/-!
# The report of a commit

A commit to paths that lead to different places tells exactly what it did. The files that it names
hold what they should, the one at which it failed is the one that its error names, and those behind
it are as they were. Whatever happens, nothing else changes but for new directories above the
targets.

## Main definitions

* `Separate` — paths that lead to different places, and never up.
* `Holds` — the files behind the artifacts hold their contents.
* `Reported` — how a commit ends: complete, obstructed at an artifact, or without its route.
-/

namespace CrudForge

open FileSystem

/-- Paths without double dots that lead to different places. -/
structure Separate (fs : FileSystem) (paths : List Path) : Prop where
  descends : ∀ p ∈ paths, p.Descends
  distinct : (paths.map fs.target).Nodup

instance (fs : FileSystem) (paths : List Path) : Decidable (Separate fs paths) :=
  decidable_of_iff ((∀ p ∈ paths, p.Descends) ∧ (paths.map fs.target).Nodup)
    ⟨fun h => ⟨h.1, h.2⟩, fun h => ⟨h.descends, h.distinct⟩⟩

/-- The error is about the file at `p`, or about the directory that holds it. -/
def WriteError.Concerns (e : WriteError) (p : Path) : Prop :=
  (∃ cause, e = .file p cause) ∨
    ∃ parent cause, p.parent? = some parent ∧ e = .directory parent cause

/-! ## Writing -/

/-- A file that cannot be stored is named by the error, or its directory is. -/
theorem concerns_of_storeWith {fs : FileSystem} {p : Path}
    {write : FileSystem → Except AccessError FileSystem} {e : WriteError}
    (h : (fs.storeWith p write).1 = .error e) : e.Concerns p := by
  unfold storeWith at h
  split at h
  · rename_i cause fs' hcreate
    obtain rfl := Except.error.inj h
    unfold createParents at hcreate
    split at hcreate
    · simp at hcreate
    · rename_i parent hparent
      split at hcreate
      · simp at hcreate
      · obtain ⟨hcause, -⟩ := Prod.mk.inj hcreate
        exact .inr ⟨parent, _, hparent, (Except.error.inj hcause).symm⟩
  · split at h
    · simp at h
    · exact .inl ⟨_, (Except.error.inj h).symm⟩

theorem confined_writeArtifacts (fs : FileSystem) {artifacts : List Artifact}
    (h : ∀ a ∈ artifacts, a.path.Descends) :
    Confined fs (writeArtifacts fs artifacts).2 (artifacts.map (·.path)) := by
  induction artifacts generalizing fs with
  | nil => exact .refl fs _
  | cons a rest ih =>
    obtain ⟨ha, hrest⟩ := List.forall_mem_cons.1 h
    have hstore : Confined fs (fs.storeText a.path a.content).2 [a.path] := confined_storeWith ha _
    rw [writeArtifacts]
    split
    · rename_i e fs' hfailed
      rw [hfailed] at hstore
      exact hstore.mono (by simp)
    · rename_i fs' hstored
      rw [hstored] at hstore
      have hall := hstore.trans (ih fs' hrest)
      split
      all_goals
        rename_i hwrite
        simpa [hwrite] using hall

/-- Writing stops at the artifact behind those that are told as written. -/
theorem exists_concerns_of_writeArtifacts {fs fs' : FileSystem} {artifacts : List Artifact}
    {written : List (ArtifactKind × Path)} {e : WriteError}
    (h : writeArtifacts fs artifacts = (.error (written, e), fs')) :
    ∃ a, artifacts[written.length]? = some a ∧ e.Concerns a.path := by
  induction artifacts generalizing fs written with
  | nil => simp [writeArtifacts] at h
  | cons a rest ih =>
    rw [writeArtifacts] at h
    split at h
    · rename_i hstore
      obtain ⟨htold, -⟩ := Prod.mk.inj h
      obtain ⟨rfl, rfl⟩ := Prod.mk.inj (Except.error.inj htold)
      exact ⟨a, rfl, concerns_of_storeWith (congrArg Prod.fst hstore)⟩
    · split at h
      · simp at h
      · rename_i hrest
        obtain ⟨htold, rfl⟩ := Prod.mk.inj h
        obtain ⟨rfl, rfl⟩ := Prod.mk.inj (Except.error.inj htold)
        exact ih hrest

/-! ## What files hold -/

/-- The file behind every artifact holds its content. -/
def Holds (fs : FileSystem) (artifacts : List Artifact) : Prop :=
  ∀ a ∈ artifacts, fs.readFile a.path = .ok a.content.toUTF8

instance (fs : FileSystem) (artifacts : List Artifact) : Decidable (Holds fs artifacts) :=
  inferInstanceAs (Decidable (∀ a ∈ artifacts, fs.readFile a.path = .ok a.content.toUTF8))

theorem Holds.of_grown {fs fs' : FileSystem} {artifacts : List Artifact} (h : Holds fs artifacts)
    (hgrown : Extends fs fs')
    (hfile : ∀ a ∈ artifacts, fs'.fileAt (fs.target a.path) = fs.fileAt (fs.target a.path)) :
    Holds fs' artifacts := by
  intro a ha
  exact hgrown.readFile (hfile a ha) (h a ha)

/-- Of artifacts with different targets, each is the last one for its own. -/
theorem lastContent?_of_mem {fs : FileSystem} {artifacts : List Artifact}
    (hdistinct : (artifacts.map fun a => fs.target a.path).Nodup) {a : Artifact}
    (ha : a ∈ artifacts) :
    lastContent? fs (fs.target a.path) artifacts = some a.content.toUTF8 := by
  have hsome : (lastContent? fs (fs.target a.path) artifacts).isSome := by
    refine Option.isSome_iff_ne_none.2 fun hnone => ?_
    exact lastContent?_eq_none.1 hnone a ha rfl
  obtain ⟨b, hb, htarget, hcontent⟩ := exists_of_lastContent?_isSome hsome
  obtain rfl := List.inj_on_of_nodup_map hdistinct ha hb htarget
  exact hcontent

theorem Writes.holds {fs fs' : FileSystem} {done : List Artifact} {Way : Location → Prop}
    (h : Writes fs done fs' Way) (hdistinct : (done.map fun a => fs.target a.path).Nodup) :
    Holds fs' done := by
  intro a ha
  refine readFile_eq_ok.2 ⟨_, h.located a ha, ?_⟩
  rw [h.fileAt, lastContent?_of_mem hdistinct ha, Option.some_or]

/-! ## How a commit ends -/

namespace RouteSink

/-- The paths to which lines go. -/
def paths : RouteSink → List Path
  | file path => [path]
  | memory _ => []

/-- No line has come to the file of the sink. -/
def Untouched (sink : RouteSink) (fs fs' : FileSystem) : Prop :=
  ∀ p ∈ sink.paths, fs'.fileAt (fs.target p) = fs.fileAt (fs.target p)

/-- The sink is the same with one more line: at the end of its file, or of its list. -/
def Receives (sink : RouteSink) (line : String) (fs : FileSystem) (sink' : RouteSink)
    (fs' : FileSystem) : Prop :=
  match sink with
  | file p => sink' = file p ∧
      fs'.readFile p = .ok ((fs.fileAt (fs.target p)).getD .empty ++ line.toUTF8)
  | memory lines => sink' = memory (lines ++ [line])

end RouteSink

/-- What a commit told, and what it left. -/
inductive Reported (g : Generator) (fs : FileSystem) (artifacts : List Artifact)
    (sink : RouteSink) : Except Stop (Report × RouteSink) → FileSystem → Prop
  /-- All artifacts were written, and then the line was appended. -/
  | complete {report : Report} {sink' : RouteSink} {written fs' : FileSystem}
      (told : report = ⟨listed artifacts, g.routeLine, sink.describe⟩)
      (first : Holds written artifacts ∧ sink.Untouched fs written)
      (last : sink.append g.routeLine written = (.ok sink', fs'))
      (held : Holds fs' artifacts) (received : sink.Receives g.routeLine fs sink' fs') :
      Reported g fs artifacts sink (.ok (report, sink')) fs'
  /-- The artifact behind those that were written could not be written. -/
  | obstructed {done rest : List Artifact} {a : Artifact} {e : WriteError} {fs' : FileSystem}
      (split : artifacts = done ++ a :: rest) (named : e.Concerns a.path) (held : Holds fs' done)
      (untouched : ∀ b ∈ a :: rest, fs'.fileAt (fs.target b.path) = fs.fileAt (fs.target b.path))
      (silent : sink.Untouched fs fs') :
      Reported g fs artifacts sink (.error ⟨listed done, .write e⟩) fs'
  /-- All artifacts were written, but the line could not be appended. -/
  | unregistered {route : Path} {e : WriteError} {fs' : FileSystem} (file : sink = .file route)
      (named : e.Concerns route) (held : Holds fs' artifacts) (silent : sink.Untouched fs fs') :
      Reported g fs artifacts sink (.error ⟨listed artifacts, .write e⟩) fs'

section Commit

variable {fs fs' : FileSystem} {artifacts done : List Artifact} {sink : RouteSink}
  {Way : Location → Prop}

theorem Separate.distinct_artifacts (h : Separate fs (artifacts.map (·.path) ++ sink.paths)) :
    (artifacts.map fun a => fs.target a.path).Nodup := by
  have hdistinct := h.distinct
  rw [List.map_append, List.map_map] at hdistinct
  exact hdistinct.of_append_left

/-- The route leads to none of the artifacts. -/
theorem Separate.target_ne_route {route : Path}
    (h : Separate fs (artifacts.map (·.path) ++ [route])) :
    ∀ a ∈ artifacts, fs.target a.path ≠ fs.target route := by
  intro a ha hsame
  have hdistinct := h.distinct
  rw [List.map_append, List.nodup_append] at hdistinct
  exact hdistinct.2.2 _ (List.mem_map_of_mem (List.mem_map_of_mem ha)) _ (by simp) hsame

/-- Places of which no artifact was written are as they were. -/
theorem Writes.fileAt_of_notMem (h : Writes fs done fs' Way) {l : Location}
    (hl : ∀ a ∈ done, l ≠ fs.target a.path) : fs'.fileAt l = fs.fileAt l := by
  rw [h.fileAt, lastContent?_eq_none.2 hl, Option.none_or]

theorem Writes.untouched (h : Writes fs done fs' Way) (hdone : done <+: artifacts)
    (hsep : Separate fs (artifacts.map (·.path) ++ sink.paths)) : sink.Untouched fs fs' := by
  intro p hp
  cases sink with
  | memory lines => simp [RouteSink.paths] at hp
  | file route =>
    obtain rfl := List.mem_singleton.1 hp
    exact h.fileAt_of_notMem fun a ha => (hsep.target_ne_route a (hdone.subset ha)).symm

/-- Artifacts that were not written are as they were. -/
theorem Writes.fileAt_of_rest {rest : List Artifact} (h : Writes fs done fs' Way)
    (hdistinct : ((done ++ rest).map fun a => fs.target a.path).Nodup) :
    ∀ b ∈ rest, fs'.fileAt (fs.target b.path) = fs.fileAt (fs.target b.path) := by
  intro b hb
  refine h.fileAt_of_notMem fun a ha hsame => ?_
  rw [List.map_append, List.nodup_append] at hdistinct
  exact hdistinct.2.2 _ (List.mem_map_of_mem ha) _ (List.mem_map_of_mem hb) hsame.symm

/-- A line that is appended to a file of its own leaves the artifacts as they are. -/
theorem holds_extendText {route : Path} (line : String) (h : Holds fs artifacts)
    (hroute : ∀ a ∈ artifacts, fs.target a.path ≠ fs.target route) :
    Holds (fs.extendText route line).2 artifacts := by
  have hstores := stores_storeWith fs route fun old => old ++ line.toUTF8
  refine h.of_grown hstores.grown fun a ha => ?_
  cases htold : (fs.extendText route line).1 with
  | ok _ => exact ((hstores.stored htold).2 _).trans (if_neg (hroute a ha))
  | error e => exact hstores.failed htold _

/-- A line is appended, or the file of the route is named and stays as it was. -/
theorem extendText_cases (fs : FileSystem) (route : Path) (line : String) :
    ((fs.extendText route line).1 = .ok () ∧ (fs.extendText route line).2.readFile route =
      .ok ((fs.fileAt (fs.target route)).getD .empty ++ line.toUTF8)) ∨
    ∃ e, (fs.extendText route line).1 = .error e ∧ e.Concerns route ∧
      (fs.extendText route line).2.fileAt (fs.target route) = fs.fileAt (fs.target route) := by
  have hstores := stores_storeWith fs route fun old => old ++ line.toUTF8
  change Stores fs route _ (fs.extendText route line).1 (fs.extendText route line).2 at hstores
  cases htold : (fs.extendText route line).1 with
  | ok _ =>
    obtain ⟨hlocate, hfile⟩ := hstores.stored htold
    refine .inl ⟨rfl, readFile_eq_ok.2 ⟨_, hlocate, ?_⟩⟩
    rw [hfile, if_pos rfl]
  | error e => exact .inr ⟨e, rfl, concerns_of_storeWith htold, hstores.failed htold _⟩

/-- A commit that cannot write an artifact is obstructed. -/
theorem reported_of_writeArtifacts_error (g : Generator)
    (hsep : Separate fs (artifacts.map (·.path) ++ sink.paths))
    {written : List (ArtifactKind × Path)} {e : WriteError}
    (hwrite : writeArtifacts fs artifacts = (.error (written, e), fs')) :
    Reported g fs artifacts sink (.error ⟨written, .write e⟩) fs' := by
  obtain ⟨done, htold, hwrites⟩ := writes_writeArtifacts fs artifacts
  rw [hwrite] at htold hwrites
  obtain ⟨a, ha, hnamed⟩ := exists_concerns_of_writeArtifacts hwrite
  cases htold with
  | some hsplit hfailed =>
    rename_i rest
    obtain ⟨b, rest, rfl⟩ := List.exists_cons_of_ne_nil hfailed
    -- the artifact that the error concerns is the first of those that were not written
    obtain rfl : b = a := by simpa [hsplit, listed] using ha
    have hdistinct := hsep.distinct_artifacts
    rw [hsplit] at hdistinct
    have hdone : (done.map fun a => fs.target a.path).Nodup := by
      rw [List.map_append] at hdistinct
      exact hdistinct.of_append_left
    exact .obstructed hsplit hnamed (hwrites.holds hdone) (hwrites.fileAt_of_rest hdistinct)
      (hwrites.untouched ⟨_, hsplit.symm⟩ hsep)

/-- A commit that writes all artifacts ends with its route line. -/
theorem reported_of_writeArtifacts_ok (g : Generator)
    (hsep : Separate fs (artifacts.map (·.path) ++ sink.paths)) {written : FileSystem}
    (hwrite : writeArtifacts fs artifacts = (.ok (), written)) :
    Reported g fs artifacts sink (g.commit fs artifacts sink).1 (g.commit fs artifacts sink).2 := by
  obtain ⟨done, htold, hwrites⟩ := writes_writeArtifacts fs artifacts
  rw [hwrite] at htold hwrites
  cases htold
  have hheld := hwrites.holds hsep.distinct_artifacts
  have huntouched := hwrites.untouched (List.prefix_refl _) hsep
  unfold Generator.commit
  rw [hwrite]
  cases sink with
  | memory lines => exact .complete rfl ⟨hheld, huntouched⟩ rfl hheld rfl
  | file route =>
    have hroute : ∀ a ∈ artifacts, written.target a.path ≠ written.target route := by
      intro a ha
      rw [hwrites.grown.target, hwrites.grown.target]
      exact hsep.target_ne_route a ha
    have hheld' := holds_extendText g.routeLine hheld hroute
    have hold : written.fileAt (fs.target route) = fs.fileAt (fs.target route) :=
      huntouched route (by simp [RouteSink.paths])
    have happend := extendText_cases written route g.routeLine
    rw [hwrites.grown.target, hold] at happend
    simp only [RouteSink.append]
    rcases hextend : written.extendText route g.routeLine with ⟨told, fs'⟩
    rw [hextend] at happend hheld'
    rcases happend with ⟨rfl, hread⟩ | ⟨e, rfl, hnamed, hkept⟩
    · have hlast : (RouteSink.file route).append g.routeLine written =
          (.ok (.file route), fs') := by
        simp [RouteSink.append, hextend]
      exact .complete rfl ⟨hheld, huntouched⟩ hlast hheld' ⟨rfl, hread⟩
    · refine .unregistered rfl hnamed hheld' fun p hp => ?_
      obtain rfl := List.mem_singleton.1 hp
      exact hkept

/-- A commit to different places tells what it did. -/
theorem reported_commit (g : Generator)
    (hsep : Separate fs (artifacts.map (·.path) ++ sink.paths)) :
    Reported g fs artifacts sink (g.commit fs artifacts sink).1 (g.commit fs artifacts sink).2 := by
  rcases hwrite : writeArtifacts fs artifacts with ⟨⟨written, e⟩ | ⟨⟩, fs'⟩
  · simpa [Generator.commit, hwrite] using reported_of_writeArtifacts_error g hsep hwrite
  · exact reported_of_writeArtifacts_ok g hsep hwrite

/-- A commit changes nothing but what its paths lead to. -/
theorem confined_commit (g : Generator)
    (h : ∀ p ∈ artifacts.map (·.path) ++ sink.paths, p.Descends) :
    Confined fs (g.commit fs artifacts sink).2 (artifacts.map (·.path) ++ sink.paths) := by
  have hwrite : Confined fs (writeArtifacts fs artifacts).2 (artifacts.map (·.path)) :=
    confined_writeArtifacts fs fun a ha => h _ (List.mem_append_left _ (List.mem_map_of_mem ha))
  unfold Generator.commit
  split
  · rename_i fs' hfailed
    rw [hfailed] at hwrite
    exact hwrite.mono (List.subset_append_left _ _)
  · rename_i fs' hwritten
    rw [hwritten] at hwrite
    have happend : Confined fs' (sink.append g.routeLine fs').2 sink.paths := by
      cases sink with
      | memory lines => exact .refl fs' _
      | file route =>
        have hroute : Confined fs' (fs'.extendText route g.routeLine).2 [route] :=
          confined_storeWith (h route (by simp [RouteSink.paths])) _
        simp only [RouteSink.append]
        split
        all_goals
          rename_i hextend
          simpa [hextend, RouteSink.paths] using hroute
    have hall := hwrite.trans happend
    simp only
    split
    all_goals
      rename_i hsink
      simpa [hsink] using hall

end Commit

end CrudForge
