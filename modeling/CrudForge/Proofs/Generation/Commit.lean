import CrudForge.Generation.Generator
import CrudForge.Proofs.FileSystem.Writes

/-!
# What a commit changes

A commit writes the first artifacts of its list, all of them unless it fails, and says which. The
files afterwards are those before, with each written file in its last version and, if the commit
succeeds, with the route line at the end of the route file.

## Main definitions

* `lastContent?` — what the last artifact for a location holds.
* `writtenBy` — the files that the outcome of a commit names.
* `Commits` — the whole effect of a commit, given its outcome.
-/

namespace CrudForge

open FileSystem

/-- The content of the last artifact that goes to `l`. -/
def lastContent? (fs : FileSystem) (l : Location) : List Artifact → Option ByteArray
  | [] => none
  | artifact :: rest =>
    (lastContent? fs l rest).or
      (if l = fs.target artifact.path then some artifact.content.toUTF8 else none)

theorem lastContent?_eq_none {fs : FileSystem} {l : Location} {artifacts : List Artifact} :
    lastContent? fs l artifacts = none ↔ ∀ a ∈ artifacts, l ≠ fs.target a.path := by
  induction artifacts with
  | nil => simp [lastContent?]
  | cons a rest ih => simp [lastContent?, ih, and_comm]

theorem lastContent?_congr {fs fs' : FileSystem} (h : Extends fs fs') (l : Location)
    (artifacts : List Artifact) : lastContent? fs' l artifacts = lastContent? fs l artifacts := by
  induction artifacts with
  | nil => rfl
  | cons a rest ih => simp [lastContent?, ih, h.target]

theorem exists_of_lastContent?_isSome {fs : FileSystem} {l : Location} {artifacts : List Artifact}
    (h : (lastContent? fs l artifacts).isSome) :
    ∃ a ∈ artifacts, l = fs.target a.path ∧
      lastContent? fs l artifacts = some a.content.toUTF8 := by
  induction artifacts with
  | nil => simp [lastContent?] at h
  | cons a rest ih =>
    rw [lastContent?] at h ⊢
    cases hrest : lastContent? fs l rest with
    | some content =>
      obtain ⟨b, hb, hl, hcontent⟩ := ih (by simp [hrest])
      exact ⟨b, List.mem_cons_of_mem _ hb, hl, by simpa [hrest] using hcontent⟩
    | none =>
      by_cases hl : l = fs.target a.path
      · exact ⟨a, by simp, hl, by simp [hl]⟩
      · simp [hrest, hl] at h

/-- The kinds and paths of artifacts, as reports list them. -/
def listed (artifacts : List Artifact) : List (ArtifactKind × Path) :=
  artifacts.map fun artifact => (artifact.kind, artifact.path)

/-- The files that the outcome of a commit names as written. -/
def writtenBy : Except Stop (Report × RouteSink) → List (ArtifactKind × Path)
  | .ok (report, _) => report.written
  | .error stop => stop.written

/-! ## Writing the artifacts -/

/-- The effect of writing `done`, on the way to which only directories are made. -/
structure Writes (fs : FileSystem) (done : List Artifact) (fs' : FileSystem)
    (Way : Location → Prop) : Prop where
  grown : Extends fs fs'
  directory : ∀ {l : Location}, fs'.entryAt? l = some .directory →
    fs.entryAt? l = some .directory ∨ Way l
  located : ∀ a ∈ done, fs'.locate a.path = .ok (fs.target a.path)
  fileAt : ∀ l, fs'.fileAt l = (lastContent? fs l done).or (fs.fileAt l)

/-- The locations on the ways to the artifacts. -/
def OnWays (fs : FileSystem) (artifacts : List Artifact) (l : Location) : Prop :=
  ∃ a ∈ artifacts, fs.OnWay a.path l

/-- How writing a list of artifacts ends: all of them are written, or those in front of the one that
fails. -/
inductive WritesTold (artifacts : List Artifact) :
    Except (List (ArtifactKind × Path) × WriteError) Unit → List Artifact → Prop
  | all : WritesTold artifacts (.ok ()) artifacts
  | some {done rest : List Artifact} {e : WriteError} (split : artifacts = done ++ rest)
      (failed : rest ≠ []) : WritesTold artifacts (.error (listed done, e)) done

theorem onWay_congr {fs fs' : FileSystem} (h : Extends fs fs') {p : Path} {l : Location} :
    fs'.OnWay p l ↔ fs.OnWay p l := by
  simp [OnWay, h.origin]

theorem writes_writeArtifacts (fs : FileSystem) (artifacts : List Artifact) :
    ∃ done, WritesTold artifacts (writeArtifacts fs artifacts).1 done ∧
      Writes fs done (writeArtifacts fs artifacts).2 (OnWays fs artifacts) := by
  induction artifacts generalizing fs with
  | nil =>
    have hfile (l : Location) : fs.fileAt l = (lastContent? fs l []).or (fs.fileAt l) := rfl
    exact ⟨[], .all, .refl fs, .inl, by simp, hfile⟩
  | cons a rest ih =>
    have hstores := stores_storeWith fs a.path fun _ => a.content.toUTF8
    change Stores fs a.path _ (fs.storeText a.path a.content).1
      (fs.storeText a.path a.content).2 at hstores
    rw [writeArtifacts]
    split
    · rename_i e fs' hstore
      rw [hstore] at hstores
      have htold : WritesTold (a :: rest) (.error (listed [], e)) [] :=
        .some rfl (List.cons_ne_nil a rest)
      refine ⟨[], htold, hstores.grown, fun hl => ?_, by simp, ?_⟩
      · exact (hstores.directory hl).imp_right fun h => ⟨a, by simp, h⟩
      · simpa [lastContent?] using hstores.failed rfl
    · rename_i fs' hstore
      rw [hstore] at hstores
      obtain ⟨hlocated, hfile⟩ := hstores.stored rfl
      obtain ⟨done, htold, hwrites⟩ := ih fs'
      have hgrown := hstores.grown
      have hall : Writes fs (a :: done) (writeArtifacts fs' rest).2 (OnWays fs (a :: rest)) := by
        refine ⟨hgrown.trans hwrites.grown, fun hl => ?_, ?_, fun l => ?_⟩
        · rcases hwrites.directory hl with hl | ⟨b, hb, hway⟩
          · exact (hstores.directory hl).imp_right fun h => ⟨a, by simp, h⟩
          · exact .inr ⟨b, List.mem_cons_of_mem _ hb, (onWay_congr hgrown).1 hway⟩
        · refine List.forall_mem_cons.2 ⟨hwrites.grown.locate hlocated, fun b hb => ?_⟩
          rw [hwrites.located b hb, hgrown.target]
        · rw [hwrites.fileAt, hfile, lastContent?_congr hgrown, lastContent?]
          split <;> simp
      split
      · rename_i fs'' hrest
        rw [hrest] at htold hall
        cases htold
        exact ⟨a :: rest, .all, hall⟩
      · rename_i written e fs'' hrest
        rw [hrest] at htold hall
        cases htold with
        | some hsplit hfailed =>
          have htold : WritesTold (a :: rest) (.error (listed (a :: done), e)) (a :: done) :=
            .some (congrArg (a :: ·) hsplit) hfailed
          exact ⟨a :: done, htold, hall⟩

/-! ## Committing -/

/-- The effect of a commit to a route file, given its outcome and the artifacts that it wrote. -/
structure Commits (fs : FileSystem) (artifacts : List Artifact) (route : Path) (line : String)
    (told : Except Stop (Report × RouteSink)) (fs' : FileSystem) (done : List Artifact) :
    Prop where
  grown : Extends fs fs'
  directory : ∀ {l : Location}, fs'.entryAt? l = some .directory →
    fs.entryAt? l = some .directory ∨ OnWays fs artifacts l ∨ fs.OnWay route l
  first : done <+: artifacts
  written : writtenBy told = listed done
  located : ∀ a ∈ done, fs'.locate a.path = .ok (fs.target a.path)
  succeeded : told.isOk = true → done = artifacts ∧ fs'.locate route = .ok (fs.target route) ∧
    ∀ l, fs'.fileAt l =
      if l = fs.target route then
        some ((((lastContent? fs l done).or (fs.fileAt l)).getD .empty) ++ line.toUTF8)
      else (lastContent? fs l done).or (fs.fileAt l)
  failed : told.isOk = false → ∀ l, fs'.fileAt l = (lastContent? fs l done).or (fs.fileAt l)

/-- Apart from the route file, files are as they were written last. -/
theorem Commits.fileAt_of_ne {fs fs' : FileSystem} {artifacts done : List Artifact} {route : Path}
    {line : String} {told : Except Stop (Report × RouteSink)}
    (h : Commits fs artifacts route line told fs' done) {l : Location}
    (hl : l ≠ fs.target route) : fs'.fileAt l = (lastContent? fs l done).or (fs.fileAt l) := by
  cases hok : told.isOk with
  | true => rw [(h.succeeded hok).2.2, if_neg hl]
  | false => exact h.failed hok l

theorem commits_commit (g : Generator) (fs : FileSystem) (artifacts : List Artifact)
    (route : Path) :
    ∃ done, Commits fs artifacts route g.routeLine (g.commit fs artifacts (.file route)).1
      (g.commit fs artifacts (.file route)).2 done := by
  obtain ⟨done, htold, hwrites⟩ := writes_writeArtifacts fs artifacts
  have hdirectory {l : Location} {fs' : FileSystem} (h : Writes fs done fs' (OnWays fs artifacts))
      (hl : fs'.entryAt? l = some .directory) :
      fs.entryAt? l = some .directory ∨ OnWays fs artifacts l ∨ fs.OnWay route l :=
    (h.directory hl).imp_right .inl
  refine ⟨done, ?_⟩
  unfold Generator.commit
  split
  · rename_i written e fs' hwrite
    rw [hwrite] at htold hwrites
    cases htold with
    | some hsplit hfailed =>
      exact ⟨hwrites.grown, hdirectory hwrites, ⟨_, hsplit.symm⟩, rfl, hwrites.located, nofun,
        fun _ => hwrites.fileAt⟩
  · rename_i fs' hwrite
    rw [hwrite] at htold hwrites
    cases htold
    have hstores := stores_storeWith fs' route fun old => old ++ g.routeLine.toUTF8
    change Stores fs' route _ (fs'.extendText route g.routeLine).1
      (fs'.extendText route g.routeLine).2 at hstores
    have hgrown := hwrites.grown.trans hstores.grown
    have hway {l : Location}
        (hl : (fs'.extendText route g.routeLine).2.entryAt? l = some .directory) :
        fs.entryAt? l = some .directory ∨ OnWays fs artifacts l ∨ fs.OnWay route l := by
      rcases hstores.directory hl with hl | hl
      · exact hdirectory hwrites hl
      · exact .inr (.inr ((onWay_congr hwrites.grown).1 hl))
    have hlocated : ∀ a ∈ artifacts,
        (fs'.extendText route g.routeLine).2.locate a.path = .ok (fs.target a.path) :=
      fun a ha => hstores.grown.locate (hwrites.located a ha)
    simp only [RouteSink.append]
    cases happend : fs'.extendText route g.routeLine with
    | mk told fs'' =>
      rw [happend] at hstores hgrown hlocated hway
      cases told with
      | error e =>
        refine ⟨hgrown, hway, List.prefix_refl _, rfl, hlocated, nofun, fun _ l => ?_⟩
        rw [hstores.failed rfl, hwrites.fileAt]
      | ok u =>
        obtain ⟨hroute, hfile⟩ := hstores.stored rfl
        rw [hwrites.grown.target] at hroute
        refine ⟨hgrown, hway, List.prefix_refl _, rfl, hlocated,
          fun _ => ⟨rfl, hroute, fun l => ?_⟩, nofun⟩
        rw [hfile, hwrites.grown.target, hwrites.fileAt]

end CrudForge
