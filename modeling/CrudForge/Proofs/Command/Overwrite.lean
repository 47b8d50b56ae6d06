import CrudForge.Proofs.Command.Course
import CrudForge.Proofs.FileSystem.Detour
import CrudForge.Proofs.Generation.Commit
import CrudForge.Proofs.Generation.Standard
import CrudForge.Proofs.Settings.Load

/-!
# What is overwritten

Without force, a run asks before it replaces files. It finds the files to ask about before it makes
directories, so it misses exactly those to which a path only leads through a directory that it makes
itself. All other files are only replaced if the user was warned and said yes, and the route file
only gets its line.

## Main definitions

* `Scaffold.Run.written`, `Scaffold.Run.warned` — the files that a run names.
* `Scaffold.Protects` — files only change as the user was told.
-/

namespace CrudForge.Scaffold

open FileSystem

/-- The files that a notice names as written. -/
def Notice.written : Notice → List (ArtifactKind × Path)
  | .generated _ report => report.written
  | .stopped _ written _ => written
  | _ => []

/-- The files that a notice warns of. -/
def Notice.warned : Notice → List (ArtifactKind × Path)
  | .warning _ existing => listed existing
  | _ => []

/-- The files that a run names as written. -/
def Run.written (run : Run) : List (ArtifactKind × Path) :=
  run.notices.flatMap Notice.written

/-- The files that a run warns of. -/
def Run.warned (run : Run) : List (ArtifactKind × Path) :=
  run.notices.flatMap Notice.warned

/-- A file changes only if it gets the route line, or if the user was warned and said yes. -/
def Protects (fs : FileSystem) (env : Environment) (request : Request) (answer : Answer) : Prop :=
  ∀ l content, fs.fileAt l = some content →
    (run fs env request answer).files.fileAt l ≠ some content →
      (∃ g, generator fs env request = .ok g ∧ l = fs.target g.layout.routeFile ∧
        (run fs env request answer).files.fileAt l = some (content ++ g.routeLine.toUTF8)) ∨
      ∃ x ∈ (run fs env request answer).warned, fs.target x.2 = l ∧ answer = .yes

section Perform

variable {fs : FileSystem} {g : Generator} {artifacts : List Artifact}

/-- What is performed is a commit, and the user is told what it wrote. -/
theorem commits_perform (fs : FileSystem) (g : Generator) (artifacts : List Artifact) :
    ∃ told done, Commits fs artifacts g.layout.routeFile g.routeLine told
      (perform fs g artifacts).files done ∧ (perform fs g artifacts).written = listed done ∧
        (perform fs g artifacts).warned = [] := by
  obtain ⟨done, hcommits⟩ := commits_commit g fs artifacts g.layout.routeFile
  unfold perform
  split
  · rename_i report sink fs' hcommit
    rw [hcommit] at hcommits
    refine ⟨_, done, hcommits, ?_, rfl⟩
    simpa [Run.written, Notice.written, writtenBy] using hcommits.written
  · rename_i stop fs' hcommit
    rw [hcommit] at hcommits
    refine ⟨_, done, hcommits, ?_, rfl⟩
    simpa [Run.written, Notice.written, writtenBy] using hcommits.written

/-- Every file that changes is written, or gets the route line. -/
theorem changed_perform {l : Location} {content : ByteArray} (hl : fs.fileAt l = some content)
    (hchanged : (perform fs g artifacts).files.fileAt l ≠ some content) :
    (l = fs.target g.layout.routeFile ∧
      (perform fs g artifacts).files.fileAt l = some (content ++ g.routeLine.toUTF8)) ∨
    ∃ x ∈ (perform fs g artifacts).written, fs.target x.2 = l := by
  obtain ⟨told, done, hcommits, hwritten, -⟩ := commits_perform fs g artifacts
  cases hlast : lastContent? fs l done with
  | some last =>
    have hsome : (lastContent? fs l done).isSome := by simp [hlast]
    obtain ⟨a, ha, htarget, -⟩ := exists_of_lastContent?_isSome hsome
    refine .inr ⟨(a.kind, a.path), ?_, htarget.symm⟩
    rw [hwritten]
    exact List.mem_map_of_mem ha
  | none =>
    cases hok : told.isOk with
    | false =>
      rw [hcommits.failed hok, hlast, Option.none_or] at hchanged
      exact absurd hl hchanged
    | true =>
      have hfile := (hcommits.succeeded hok).2.2 l
      rw [hlast, Option.none_or, hl] at hfile
      split at hfile
      · rename_i hroute
        exact .inl ⟨hroute, hfile⟩
      · exact absurd hfile hchanged

/-- Of the files that are written, those are known to exist to which no path detours. -/
theorem mem_existing_iff {x : ArtifactKind × Path} (hx : x ∈ (perform fs g artifacts).written)
    (hold : (fs.fileAt (fs.target x.2)).isSome) :
    x ∈ listed (existing fs artifacts) ↔ ¬fs.Detours x.2 := by
  obtain ⟨told, done, hcommits, hwritten, -⟩ := commits_perform fs g artifacts
  rw [hwritten, listed, List.mem_map] at hx
  obtain ⟨a, ha, rfl⟩ := hx
  have hentry : (fs.entryAt? (fs.target a.path)).isSome := by
    obtain ⟨content, hcontent⟩ := Option.isSome_iff_exists.1 hold
    simp [fileAt_eq_some_iff.1 hcontent]
  rw [← exists?_eq_true_iff_not_detours hcommits.grown (hcommits.located a ha) hentry]
  constructor
  · intro hmem
    obtain ⟨b, hb, heq⟩ := List.mem_map.1 hmem
    obtain ⟨-, hpath⟩ := Prod.mk.inj heq
    rw [← hpath]
    exact (List.mem_filter.1 hb).2
  · intro hexists
    exact List.mem_map.2 ⟨a, List.mem_filter.2 ⟨hcommits.first.subset ha, hexists⟩, rfl⟩

end Perform

section Runs

variable {fs : FileSystem} {env : Environment} {request : Request} {answer : Answer}

/-- A preview names nothing as written. -/
theorem written_preview (fs : FileSystem) (layout : Layout) (artifacts : List Artifact) :
    (preview fs layout artifacts).1.flatMap Notice.written = [] := by
  induction artifacts with
  | nil => rfl
  | cons a rest ih =>
    unfold preview
    split
    · rfl
    · exact ih

theorem written_rehearse (g : Generator) (artifacts : List Artifact) :
    (rehearse fs g artifacts).1.flatMap Notice.written = [] := by
  have hpreview := written_preview fs g.layout artifacts
  unfold rehearse
  split
  · rename_i notices e hrun
    rw [hrun] at hpreview
    exact hpreview
  · rename_i notices hrun
    rw [hrun] at hpreview
    rw [List.flatMap_append, List.flatMap_cons, hpreview]
    rfl

/-- Without force, a run changes nothing, or it performs what it prepared: with no warning if no
file was found, and with a warning of all files found if the user said yes. -/
theorem run_cases (fs : FileSystem) (env : Environment) (answer : Answer)
    (hforce : request.force = false) :
    ((run fs env request answer).files = fs ∧ (run fs env request answer).written = []) ∨
    ∃ g artifacts, generator fs env request = .ok g ∧
      (run fs env request answer).files = (perform fs g artifacts).files ∧
      (run fs env request answer).written = (perform fs g artifacts).written ∧
      (existing fs artifacts = [] ∧ (run fs env request answer).warned = [] ∨
        answer = .yes ∧ (run fs env request answer).warned = listed (existing fs artifacts)) := by
  have hgoes := goes_run fs env request answer
  generalize run fs env request answer = r at hgoes
  cases hgoes with
  | unprepared => exact .inl ⟨rfl, rfl⟩
  | rehearsed => exact .inl ⟨rfl, written_rehearse _ _⟩
  | withheld => exact .inl ⟨rfl, rfl⟩
  | @unasked g artifacts hprepare _ hfree =>
    obtain ⟨-, -, -, -, hwarned⟩ := commits_perform fs g artifacts
    have hexisting : existing fs artifacts = [] := by simpa [hforce] using hfree
    exact .inr ⟨g, artifacts, generator_of_prepare hprepare, rfl, rfl, .inl ⟨hexisting, hwarned⟩⟩
  | @agreed g artifacts hprepare _ _ _ hyes =>
    obtain ⟨-, -, -, -, hwarned⟩ := commits_perform fs g artifacts
    refine .inr ⟨g, artifacts, generator_of_prepare hprepare, rfl, rfl, .inr ⟨hyes, ?_⟩⟩
    change listed (existing fs artifacts) ++ (perform fs g artifacts).warned = _
    rw [hwarned, List.append_nil]

/-- A written file that was there is replaced with consent if no path detours to it. -/
theorem warned_iff_not_detours (hforce : request.force = false) {x : ArtifactKind × Path}
    (hx : x ∈ (run fs env request answer).written)
    (hold : (fs.fileAt (fs.target x.2)).isSome) :
    x ∈ (run fs env request answer).warned ∧ answer = .yes ↔ ¬fs.Detours x.2 := by
  rcases run_cases fs env answer hforce with
    ⟨-, hwritten⟩ | ⟨g, artifacts, -, -, hwritten, ⟨hexisting, hwarned⟩ | ⟨hyes, hwarned⟩⟩
  · simp [hwritten] at hx
  · rw [hwritten] at hx
    rw [← mem_existing_iff hx hold, hwarned, hexisting]
    simp [listed]
  · rw [hwritten] at hx
    rw [← mem_existing_iff hx hold, hwarned]
    simp [hyes]

theorem protects_of_not_detours (hforce : request.force = false)
    (hdetours : ∀ x ∈ (run fs env request answer).written,
      (fs.fileAt (fs.target x.2)).isSome → ¬fs.Detours x.2) :
    Protects fs env request answer := by
  intro l content hl hchanged
  rcases run_cases fs env answer hforce with
    ⟨hfiles, -⟩ | ⟨g, artifacts, hgenerator, hfiles, hwritten, -⟩
  · rw [hfiles] at hchanged
    exact absurd hl hchanged
  · rw [hfiles] at hchanged ⊢
    rcases changed_perform hl hchanged with ⟨hroute, hline⟩ | ⟨x, hx, htarget⟩
    · exact .inl ⟨g, hgenerator, hroute, hline⟩
    · rw [← hwritten] at hx
      have hold : (fs.fileAt (fs.target x.2)).isSome := by simp [htarget, hl]
      obtain ⟨hwarned, hyes⟩ := (warned_iff_not_detours hforce hx hold).2 (hdetours x hx hold)
      exact .inr ⟨x, hwarned, htarget, hyes⟩

/-- Without force, of the written files that were there exactly those to which no path detours are
replaced with a warning and consent. Where none detours, and so where no path leads up, all files
are protected. -/
theorem run_protects (hforce : request.force = false) :
    (∀ x ∈ (run fs env request answer).written, (fs.fileAt (fs.target x.2)).isSome →
      (x ∈ (run fs env request answer).warned ∧ answer = .yes ↔ ¬fs.Detours x.2)) ∧
    ((∀ x ∈ (run fs env request answer).written, (fs.fileAt (fs.target x.2)).isSome →
      ¬fs.Detours x.2) → Protects fs env request answer) ∧
    ((∀ x ∈ (run fs env request answer).written, .up ∉ x.2.steps) →
      Protects fs env request answer) := by
  refine ⟨fun x => warned_iff_not_detours hforce, protects_of_not_detours hforce, fun hup => ?_⟩
  refine protects_of_not_detours hforce fun x hx hold => not_detours_of_notMem (hup x hx) ?_
  obtain ⟨content, hcontent⟩ := Option.isSome_iff_exists.1 hold
  simp [fileAt_eq_some_iff.1 hcontent]

/-- A run that finds no file to ask about performs what it prepared. -/
theorem run_of_existing_eq_nil (answer : Answer) {g : Generator} {artifacts : List Artifact}
    (hprepare : prepare fs env request = .ok (g, artifacts)) (hdry : request.dryRun = false)
    (hexisting : existing fs artifacts = []) :
    (run fs env request answer).files = (perform fs g artifacts).files ∧
      (run fs env request answer).written = (perform fs g artifacts).written ∧
      (run fs env request answer).warned = [] := by
  obtain ⟨-, -, -, -, hwarned⟩ := commits_perform fs g artifacts
  rw [run_of_free hprepare hdry (.inr hexisting)]
  exact ⟨rfl, rfl, hwarned⟩

end Runs

/-! ## A detour -/

namespace Detour

/-- A project with a file that was edited by hand. -/
def files : FileSystem :=
  Standard.withStubs (FileSystem.empty.storeText ⟨"app/Post.php"⟩ "kept").2

/-- The location of that file. -/
def edited : Location :=
  [⟨"Post.php", rfl⟩, ⟨"app", rfl⟩]

/-- Variables that put models behind a directory that is missing. -/
def env : Environment :=
  ⟨[("CRUDGEN_PATHS__MODELS_DIR", "new/../app")]⟩

/-- A request without fields and without force. -/
def request : Request where
  name := "Post"
  fields := ""
  root := ⟨"."⟩
  settingsFile := none
  strict := false
  force := false
  dryRun := false

/-- The settings that the variables give. -/
def settings : Settings :=
  { Settings.standard with
    directories := { Settings.standard.directories with models := ⟨"new/../app"⟩ } }

/-- The generator of the request. -/
def g : Generator where
  resource := ⟨"Post", by decide⟩
  fields := .empty
  layout := .of ⟨"."⟩ settings
  stubs := stubs ⟨"."⟩ settings

/-- What is made from the empty stubs. -/
def artifacts : List Artifact :=
  ArtifactKind.all.map fun kind => { kind, path := g.path kind, content := "" }

theorem load_eq_settings : Settings.load files env ⟨"."⟩ none = .ok settings := by
  have hadmitted : Settings.Admitted [⟨.environment, env.settings⟩] := by decide +kernel
  have hpick : Settings.pick [⟨.environment, env.settings⟩] = settings := by decide +kernel
  have hfile : files.isFile (Settings.projectFile ⟨"."⟩) = false := by decide +kernel
  rw [Settings.load_of_environment hfile hadmitted, hpick]

theorem prepare_eq : prepare files env request = .ok (g, artifacts) := by
  have hrender : g.render files = .ok artifacts := by decide +kernel
  exact prepare_eq_ok.2 ⟨generator_eq_ok.2 ⟨_, _, _, load_eq_settings, rfl, rfl, rfl⟩, hrender⟩

theorem run_eq : (run files env request .noTerminal).files.fileAt edited = some .empty ∧
    (.model, ⟨"./new/../app/Post.php"⟩) ∈ (run files env request .noTerminal).written ∧
    (run files env request .noTerminal).warned = [] := by
  have hexisting : existing files artifacts = [] := by decide +kernel
  have hperform : (perform files g artifacts).files.fileAt edited = some .empty ∧
      (.model, ⟨"./new/../app/Post.php"⟩) ∈ (perform files g artifacts).written := by
    decide +kernel
  obtain ⟨hfiles, hwritten, hwarned⟩ :=
    run_of_existing_eq_nil .noTerminal prepare_eq rfl hexisting
  rw [hfiles, hwritten]
  exact ⟨hperform.1, hperform.2, hwarned⟩

end Detour

/-- The detour leads to a file that was there, so nobody was asked. -/
theorem run_protects_detour :
    Detour.request.force = false ∧
      (Detour.files.fileAt (Detour.files.target ⟨"./new/../app/Post.php"⟩)).isSome ∧
      Detour.files.Detours ⟨"./new/../app/Post.php"⟩ := by
  have hold : (Detour.files.fileAt (Detour.files.target ⟨"./new/../app/Post.php"⟩)).isSome := by
    decide +kernel
  obtain ⟨-, hwritten, hwarned⟩ := Detour.run_eq
  have hprotects := @run_protects Detour.files Detour.env Detour.request .noTerminal rfl
  have hiff := hprotects.1 _ hwritten hold
  refine ⟨rfl, hold, Classical.not_not.1 fun hno => ?_⟩
  have hmem := (hiff.2 hno).1
  rw [hwarned] at hmem
  simp at hmem

/-- A file behind a detour is replaced although nobody can be asked. -/
theorem not_protects_detour :
    ¬Protects Detour.files Detour.env Detour.request .noTerminal := by
  intro hprotects
  have hkept : Detour.files.fileAt Detour.edited = some "kept".toUTF8 := by decide +kernel
  have hroute : Detour.edited ≠ Detour.files.target Detour.g.layout.routeFile := by decide +kernel
  obtain ⟨hfile, -, hwarned⟩ := Detour.run_eq
  have hchanged : (run Detour.files Detour.env Detour.request .noTerminal).files.fileAt
      Detour.edited ≠ some "kept".toUTF8 := by
    rw [hfile]
    decide
  rcases hprotects _ _ hkept hchanged with ⟨g, hg, heq, -⟩ | ⟨x, hx, -⟩
  · rw [generator_of_prepare Detour.prepare_eq] at hg
    obtain rfl := Except.ok.inj hg
    exact hroute heq
  · rw [hwarned] at hx
    simp at hx

end CrudForge.Scaffold
