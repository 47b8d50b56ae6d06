import CrudForge.Command.ScaffoldText
import CrudForge.Proofs.Command.Overwrite
import CrudForge.Proofs.Generation.Report

/-!
# What a run leaves

A dry run leaves everything as it was, and so does a run that fails before it writes. A run that
writes and succeeds has written all artifacts and registered the route once; one that fails in
between lists what it wrote and what it did not, which together are all artifacts in order.

## Main definitions

* `Scaffold.Completed` — all artifacts are written and the route is registered.
-/

namespace CrudForge.Scaffold

open FileSystem

/-- The artifacts are written one after the other, and then the route line is appended once. Where
paths lead to the same place, the last artifact counts. -/
structure Completed (g : Generator) (fs : FileSystem) (artifacts : List Artifact)
    (fs' : FileSystem) : Prop where
  grown : Extends fs fs'
  located : ∀ a ∈ artifacts, fs'.locate a.path = .ok (fs.target a.path)
  registered : fs'.locate g.layout.routeFile = .ok (fs.target g.layout.routeFile)
  fileAt : ∀ l, fs'.fileAt l =
    if l = fs.target g.layout.routeFile then
      some ((((lastContent? fs l artifacts).or (fs.fileAt l)).getD .empty) ++ g.routeLine.toUTF8)
    else (lastContent? fs l artifacts).or (fs.fileAt l)

namespace Completed

variable {g : Generator} {fs fs' : FileSystem} {artifacts : List Artifact}

/-- Artifacts at different places all hold their contents. -/
theorem holds (h : Completed g fs artifacts fs')
    (hsep : Separate fs (artifacts.map (·.path) ++ [g.layout.routeFile])) :
    Holds fs' artifacts := by
  intro a ha
  refine readFile_eq_ok.2 ⟨_, h.located a ha, ?_⟩
  have hdistinct : (artifacts.map fun a => fs.target a.path).Nodup :=
    @Separate.distinct_artifacts fs artifacts (.file g.layout.routeFile) hsep
  have hroute := hsep.target_ne_route a ha
  rw [h.fileAt, if_neg hroute, lastContent?_of_mem hdistinct ha, Option.some_or]

/-- The route file at a place of its own gets the line. -/
theorem readFile_routeFile (h : Completed g fs artifacts fs')
    (hsep : Separate fs (artifacts.map (·.path) ++ [g.layout.routeFile])) :
    fs'.readFile g.layout.routeFile =
      .ok ((fs.fileAt (fs.target g.layout.routeFile)).getD .empty ++ g.routeLine.toUTF8) := by
  have hnone : lastContent? fs (fs.target g.layout.routeFile) artifacts = none :=
    lastContent?_eq_none.2 fun a ha => (hsep.target_ne_route a ha).symm
  refine readFile_eq_ok.2 ⟨_, h.registered, ?_⟩
  rw [h.fileAt, if_pos rfl, hnone, Option.none_or]

end Completed

/-! ## Performing -/

section Perform

variable {fs : FileSystem} {g : Generator} {artifacts : List Artifact}

/-- What is performed ends well and is told, or it stops and tells what is written and what not. -/
theorem perform_cases (fs : FileSystem) (g : Generator) (artifacts : List Artifact) :
    ((perform fs g artifacts).outcome = .ok () ∧
      Completed g fs artifacts (perform fs g artifacts).files ∧
      ∃ report, report.written = listed artifacts ∧ (perform fs g artifacts).notices =
        [.generated g.layout report, .ready g.resource.text]) ∨
    ∃ cause done rest, artifacts = done ++ rest ∧
      (perform fs g artifacts).outcome = .error (.stopped cause) ∧
      (perform fs g artifacts).notices = [.stopped g.layout (listed done) rest] := by
  obtain ⟨done, hcommits⟩ := commits_commit g fs artifacts g.layout.routeFile
  unfold perform
  split
  · rename_i report sink fs' hcommit
    rw [hcommit] at hcommits
    obtain ⟨rfl, hroute, hfile⟩ := hcommits.succeeded rfl
    exact .inl ⟨rfl, ⟨hcommits.grown, hcommits.located, hroute, hfile⟩, report, hcommits.written,
      rfl⟩
  · rename_i stop fs' hcommit
    rw [hcommit] at hcommits
    obtain ⟨rest, rfl⟩ := hcommits.first
    have hwritten : stop.written = listed done := hcommits.written
    refine .inr ⟨stop.cause, done, rest, rfl, rfl, ?_⟩
    simp [hwritten, listed]

end Perform

/-! ## Running -/

section Run

variable {fs : FileSystem} {env : Environment} {request : Request} {answer : Answer}

/-- Only a run that stopped while it wrote fails with this message. -/
theorem message_eq_iff {e : Fault} :
    e.failure.message = "Failed to write scaffold files" ↔ ∃ cause, e = .stopped cause := by
  constructor
  · intro h
    cases e with
    | stopped cause => exact ⟨cause, rfl⟩
    | unreadable path cause =>
      have hchars := congrArg String.toList h
      simp [Fault.failure] at hchars
    | _ => simp [Fault.failure] at h
  · rintro ⟨cause, rfl⟩
    cases cause <;> rfl

theorem exists_of_mem_preview {layout : Layout} {artifacts : List Artifact} {n : Notice}
    (h : n ∈ (preview fs layout artifacts).1) :
    ∃ a ∈ artifacts, ∃ s, standing fs a = .ok s ∧ n = .standing layout a s := by
  induction artifacts with
  | nil => simp [preview] at h
  | cons a rest ih =>
    rw [preview] at h
    split at h
    · simp at h
    · rename_i s hstanding
      rcases List.mem_cons.1 h with rfl | h
      · exact ⟨a, by simp, s, hstanding, rfl⟩
      · obtain ⟨b, hb, hn⟩ := ih h
        exact ⟨b, List.mem_cons_of_mem _ hb, hn⟩

/-- A rehearsal tells of no stop. -/
theorem stopped_notMem_rehearse {g : Generator} {artifacts missing : List Artifact}
    {layout : Layout} {written : List (ArtifactKind × Path)} :
    .stopped layout written missing ∉ (rehearse fs g artifacts).1 := by
  have hpreview : .stopped layout written missing ∉ (preview fs g.layout artifacts).1 := by
    intro h
    obtain ⟨a, -, s, -, hn⟩ := exists_of_mem_preview h
    simp at hn
  unfold rehearse
  split
  all_goals
    rename_i hrun
    rw [hrun] at hpreview
    simpa using hpreview

/-- Of a run that stops, the files that are written and those that are not are all of them. -/
theorem listed_of_stopped {layout : Layout} {written : List (ArtifactKind × Path)}
    {missing : List Artifact}
    (h : .stopped layout written missing ∈ (run fs env request answer).notices) :
    ∃ g, generator fs env request = .ok g ∧
      written ++ listed missing = ArtifactKind.all.map fun kind => (kind, g.path kind) := by
  have hperform {g : Generator} {artifacts : List Artifact}
      (hprepared : prepare fs env request = .ok (g, artifacts))
      (h : .stopped layout written missing ∈ (perform fs g artifacts).notices) :
      ∃ g, generator fs env request = .ok g ∧
        written ++ listed missing = ArtifactKind.all.map fun kind => (kind, g.path kind) := by
    obtain ⟨hgenerator, hrender⟩ := prepare_eq_ok.1 hprepared
    refine ⟨g, hgenerator, ?_⟩
    rcases perform_cases fs g artifacts with
      ⟨-, -, report, -, hnotices⟩ | ⟨cause, done, rest, hsplit, -, hnotices⟩
    · simp [hnotices] at h
    · obtain ⟨-, rfl, rfl⟩ : layout = g.layout ∧ written = listed done ∧ missing = rest := by
        simpa [hnotices] using h
      rw [← paths_of_render hrender, hsplit, List.map_append]
      rfl
  have hgoes := goes_run fs env request answer
  generalize run fs env request answer = r at hgoes h
  cases hgoes with
  | unprepared => simp at h
  | rehearsed => exact absurd (List.mem_of_ne_of_mem (by simp) h) stopped_notMem_rehearse
  | withheld => simp at h
  | unasked hprepared => exact hperform hprepared (by simpa using h)
  | agreed hprepared => exact hperform hprepared (by simpa using h)

/-- A commit to different places tells exactly what it did, and changes nothing but what its paths
lead to. Whenever a run tells of a commit that stopped, the files that it lists as written and those
that it lists as missing are the files of all kinds in order. -/
theorem commit_reports {g : Generator} {artifacts : List Artifact} {sink : RouteSink}
    (hsep : Separate fs (artifacts.map (·.path) ++ sink.paths)) :
    Reported g fs artifacts sink (g.commit fs artifacts sink).1 (g.commit fs artifacts sink).2 ∧
    Confined fs (g.commit fs artifacts sink).2 (artifacts.map (·.path) ++ sink.paths) ∧
    ∀ fs env request answer layout written missing,
      .stopped layout written missing ∈ (run fs env request answer).notices →
        ∃ g, generator fs env request = .ok g ∧
          written ++ listed missing = ArtifactKind.all.map fun kind => (kind, g.path kind) :=
  ⟨reported_commit g hsep, confined_commit g hsep.descends, fun _ _ _ _ _ _ _ => listed_of_stopped⟩

namespace Partly

/-- A project with a file in the way of the controllers. -/
def files : FileSystem :=
  (FileSystem.empty.storeText ⟨"app/Http"⟩ "kept").2

/-- A generator with the standard settings. -/
def g : Generator where
  resource := ⟨"Page", by decide⟩
  fields := .empty
  layout := .of ⟨"."⟩ .standard
  stubs := .builtin

/-- An empty model and an empty controller. -/
def artifacts : List Artifact :=
  [⟨.model, g.path .model, ""⟩, ⟨.controller, g.path .controller, ""⟩]

end Partly

/-- The commit stops at the controller and tells so, and the file in its way is as it was. -/
theorem commit_reports_partly :
    Separate Partly.files (Partly.artifacts.map (·.path) ++ [Partly.g.layout.routeFile]) ∧
      (Partly.g.commit Partly.files Partly.artifacts (.file Partly.g.layout.routeFile)).1.isOk =
        false ∧
      Reported Partly.g Partly.files Partly.artifacts (.file Partly.g.layout.routeFile)
        (Partly.g.commit Partly.files Partly.artifacts (.file Partly.g.layout.routeFile)).1
        (Partly.g.commit Partly.files Partly.artifacts (.file Partly.g.layout.routeFile)).2 ∧
      (Partly.g.commit Partly.files Partly.artifacts (.file Partly.g.layout.routeFile)).2.fileAt
        (Partly.files.target ⟨"app/Http"⟩) = some "kept".toUTF8 := by
  have hsep : Separate Partly.files
      (Partly.artifacts.map (·.path) ++ [Partly.g.layout.routeFile]) := by decide
  have hfails : (Partly.g.commit Partly.files Partly.artifacts
      (.file Partly.g.layout.routeFile)).1.isOk = false := by decide
  have hother : ∀ p ∈ Partly.artifacts.map (·.path) ++ [Partly.g.layout.routeFile],
      Partly.files.target ⟨"app/Http"⟩ ≠ Partly.files.target p := by decide
  have hkept : Partly.files.fileAt (Partly.files.target ⟨"app/Http"⟩) = some "kept".toUTF8 := by
    decide
  obtain ⟨hreported, hconfined, -⟩ :=
    @commit_reports Partly.files Partly.g Partly.artifacts (.file Partly.g.layout.routeFile) hsep
  exact ⟨hsep, hfails, hreported, (hconfined.files _ hother).trans hkept⟩

/-- Routes that are kept in the file of the model, under another path. -/
def Partly.alias : RouteSink :=
  .file ⟨"app/Models/Page.php"⟩

/-- Paths that differ in their components may still lead to one file. The line then stands in the
file of the model, which the commit tells as written. -/
theorem not_reports_of_different :
    ¬∀ (g : Generator) (fs : FileSystem) (artifacts : List Artifact) (sink : RouteSink),
      ((artifacts.map (·.path) ++ sink.paths).map Path.components).Nodup →
      (∀ p ∈ artifacts.map (·.path) ++ sink.paths, p.Descends) →
      Reported g fs artifacts sink (g.commit fs artifacts sink).1
        (g.commit fs artifacts sink).2 := by
  intro hreports
  have hreported := hreports Partly.g .empty Partly.artifacts Partly.alias (by decide)
    (by decide)
  have hread : ¬Holds (Partly.g.commit .empty Partly.artifacts Partly.alias).2
    Partly.artifacts := by decide
  obtain ⟨told, hok⟩ : ∃ told,
      (Partly.g.commit .empty Partly.artifacts Partly.alias).1 = .ok told :=
    exists_eq_ok_of_isOk (by decide)
  rw [hok] at hreported
  cases hreported with
  | complete _ _ _ hheld _ => exact hread hheld

/-- A dry run changes nothing. -/
theorem files_of_dryRun (hdry : request.dryRun = true) :
    (run fs env request answer).files = fs := by
  have hgoes := goes_run fs env request answer
  generalize run fs env request answer = r at hgoes
  cases hgoes with
  | unprepared => rfl
  | rehearsed => rfl
  | withheld _ hno => simp [hdry] at hno
  | unasked _ hno => simp [hdry] at hno
  | agreed _ hno => simp [hdry] at hno

/-- What is performed fails with a stop only. -/
theorem exists_stopped_of_perform {g : Generator} {artifacts : List Artifact} {e : Fault}
    (h : (perform fs g artifacts).outcome = .error e) : ∃ cause, e = .stopped cause := by
  rcases perform_cases fs g artifacts with ⟨hok, -⟩ | ⟨cause, -, -, -, herror, -⟩
  · simp [hok] at h
  · exact ⟨cause, Except.error.inj (h.symm.trans herror)⟩

/-- A run that fails without a stop changes nothing. -/
theorem files_of_error {e : Fault} (h : (run fs env request answer).outcome = .error e)
    (hstop : ¬∃ cause, e = .stopped cause) : (run fs env request answer).files = fs := by
  have hgoes := goes_run fs env request answer
  generalize run fs env request answer = r at hgoes h
  cases hgoes with
  | unprepared => rfl
  | rehearsed => rfl
  | withheld => rfl
  | unasked => exact absurd (exists_stopped_of_perform h) hstop
  | agreed => exact absurd (exists_stopped_of_perform h) hstop

/-- A run that is not dry and succeeds has done everything. -/
theorem completed_of_ok (hdry : request.dryRun = false)
    (h : (run fs env request answer).outcome = .ok ()) :
    ∃ g artifacts, prepare fs env request = .ok (g, artifacts) ∧
      (run fs env request answer).written = listed artifacts ∧
      Completed g fs artifacts (run fs env request answer).files := by
  have hperform {g : Generator} {artifacts : List Artifact} (before : List Notice)
      (hbefore : before.flatMap Notice.written = [])
      (h : (perform fs g artifacts).outcome = .ok ()) :
      (before ++ (perform fs g artifacts).notices).flatMap Notice.written = listed artifacts ∧
        Completed g fs artifacts (perform fs g artifacts).files := by
    rcases perform_cases fs g artifacts with
      ⟨-, hcompleted, report, hwritten, hnotices⟩ | ⟨cause, -, -, -, herror, -⟩
    · simp [hbefore, hnotices, Notice.written, hwritten, hcompleted]
    · simp [herror] at h
  have hgoes := goes_run fs env request answer
  generalize run fs env request answer = r at hgoes h
  cases hgoes with
  | unprepared => simp at h
  | rehearsed _ hno => simp [hdry] at hno
  | withheld => simp at h
  | unasked hprepared => exact ⟨_, _, hprepared, hperform [.start _] rfl h⟩
  | agreed hprepared => exact ⟨_, _, hprepared, hperform [.start _, .warning _ _] rfl h⟩

/-- A run changes nothing before it writes: neither if it is dry, nor if it fails with any other
message than that of a stop. If it is not dry and succeeds, all artifacts are written and the route
is registered once. -/
theorem run_leaves (fs : FileSystem) (env : Environment) (request : Request) (answer : Answer) :
    (request.dryRun = true → (run fs env request answer).files = fs) ∧
    (∀ e, (run fs env request answer).outcome = .error e →
      e.failure.message ≠ "Failed to write scaffold files" →
        (run fs env request answer).files = fs) ∧
    (∀ e : Fault, e.failure.message = "Failed to write scaffold files" ↔
      ∃ cause, e = .stopped cause) ∧
    (request.dryRun = false → (run fs env request answer).outcome = .ok () →
      ∃ g artifacts, generator fs env request = .ok g ∧ g.render fs = .ok artifacts ∧
        artifacts.map (·.kind) = ArtifactKind.all ∧
        (run fs env request answer).written = listed artifacts ∧
        Completed g fs artifacts (run fs env request answer).files ∧
        (Separate fs (artifacts.map (·.path) ++ [g.layout.routeFile]) →
          Holds (run fs env request answer).files artifacts ∧
          (run fs env request answer).files.readFile g.layout.routeFile =
            .ok ((fs.fileAt (fs.target g.layout.routeFile)).getD .empty ++
              g.routeLine.toUTF8))) := by
  refine ⟨files_of_dryRun, fun e he hmessage => ?_, fun e => message_eq_iff, fun hdry hok => ?_⟩
  · exact files_of_error he (mt message_eq_iff.2 hmessage)
  · obtain ⟨g, artifacts, hprepared, hwritten, hcompleted⟩ := completed_of_ok hdry hok
    obtain ⟨hgenerator, hrender⟩ := prepare_eq_ok.1 hprepared
    exact ⟨g, artifacts, hgenerator, hrender, (render_eq_ok.1 hrender).1, hwritten, hcompleted,
      fun hsep => ⟨hcompleted.holds hsep, hcompleted.readFile_routeFile hsep⟩⟩

end Run

end CrudForge.Scaffold
