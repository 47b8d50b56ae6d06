import CrudForge.Command.Scaffold
import CrudForge.Proofs.Generation.Render

/-!
# The course of a run

A run ends before anything is written, or it performs what it prepared: without a question if it is
forced or finds no file to replace, and otherwise if the answer is yes.

## Main definitions

* `Scaffold.Answer.fault?` — the fault with which an answer ends a run.
* `Scaffold.Goes` — the courses of a run, each with what leads to it.
-/

namespace CrudForge.Scaffold

/-- The fault with which an answer ends a run; a yes ends none. -/
def Answer.fault? : Answer → Option Fault
  | .yes => none
  | .no => some .declined
  | .noTerminal => some .refused
  | .failed => some .noAnswer

/-- How a run goes. -/
inductive Goes (fs : FileSystem) (env : Environment) (request : Request) (answer : Answer) :
    Run → Prop
  /-- There is no generator, or a stub is missing. -/
  | unprepared {e : Fault} (failed : prepare fs env request = .error e) :
      Goes fs env request answer ⟨[.start request.name], .error e, fs⟩
  /-- A dry run only tells. -/
  | rehearsed {g : Generator} {artifacts : List Artifact}
      (prepared : prepare fs env request = .ok (g, artifacts)) (dry : request.dryRun = true) :
      Goes fs env request answer
        ⟨.start request.name :: (rehearse fs g artifacts).1, (rehearse fs g artifacts).2, fs⟩
  /-- Files exist, and nobody wants them replaced. -/
  | withheld {g : Generator} {artifacts : List Artifact} {e : Fault}
      (prepared : prepare fs env request = .ok (g, artifacts)) (dry : request.dryRun = false)
      (force : request.force = false) (found : existing fs artifacts ≠ [])
      (refusal : answer.fault? = some e) :
      Goes fs env request answer
        ⟨[.start request.name, .warning g.layout (existing fs artifacts)], .error e, fs⟩
  /-- Nothing has to be asked. -/
  | unasked {g : Generator} {artifacts : List Artifact}
      (prepared : prepare fs env request = .ok (g, artifacts)) (dry : request.dryRun = false)
      (free : request.force = true ∨ existing fs artifacts = []) :
      Goes fs env request answer
        { perform fs g artifacts with
          notices := .start request.name :: (perform fs g artifacts).notices }
  /-- Files exist, and the user wants them replaced. -/
  | agreed {g : Generator} {artifacts : List Artifact}
      (prepared : prepare fs env request = .ok (g, artifacts)) (dry : request.dryRun = false)
      (force : request.force = false) (found : existing fs artifacts ≠ [])
      (consent : answer = .yes) :
      Goes fs env request answer
        { perform fs g artifacts with
          notices := .start request.name :: .warning g.layout (existing fs artifacts) ::
            (perform fs g artifacts).notices }

variable {fs : FileSystem} {env : Environment} {request : Request}

/-- Every run takes one of these courses. -/
theorem goes_run (fs : FileSystem) (env : Environment) (request : Request) (answer : Answer) :
    Goes fs env request answer (run fs env request answer) := by
  unfold run
  split
  · rename_i hprepare
    exact .unprepared hprepare
  · rename_i g artifacts hprepare
    split
    · rename_i hdry
      exact .rehearsed hprepare hdry
    · rename_i hdry
      have hdry : request.dryRun = false := by simpa using hdry
      unfold performIfAllowed
      split
      · rename_i hfree
        exact .unasked hprepare hdry (by simpa using hfree)
      · rename_i hask
        have hask : request.force = false ∧ existing fs artifacts ≠ [] := by simpa using hask
        cases answer with
        | yes => exact .agreed hprepare hdry hask.1 hask.2 rfl
        | no => exact .withheld hprepare hdry hask.1 hask.2 rfl
        | noTerminal => exact .withheld hprepare hdry hask.1 hask.2 rfl
        | failed => exact .withheld hprepare hdry hask.1 hask.2 rfl

/-- What is prepared is a generator and what it renders. -/
theorem prepare_eq_ok {g : Generator} {artifacts : List Artifact} :
    prepare fs env request = .ok (g, artifacts) ↔
      generator fs env request = .ok g ∧ g.render fs = .ok artifacts := by
  unfold prepare
  cases generator fs env request with
  | error e => simp
  | ok g' => cases hrender : g'.render fs <;> grind

theorem generator_of_prepare {g : Generator} {artifacts : List Artifact}
    (h : prepare fs env request = .ok (g, artifacts)) : generator fs env request = .ok g :=
  (prepare_eq_ok.1 h).1

/-- There is a generator if there are settings, the fields can be parsed and the name is one. -/
theorem generator_eq_ok {g : Generator} :
    generator fs env request = .ok g ↔
      ∃ settings fields resource,
        Settings.load fs env request.root request.settingsFile = .ok settings ∧
        FieldList.parse (policy request settings) request.fields = .ok fields ∧
        ResourceName.ofString request.name = .ok resource ∧
        g = ⟨resource, fields, .of request.root settings, stubs request.root settings⟩ := by
  unfold generator
  constructor
  · intro h
    split at h
    · simp at h
    · rename_i settings hsettings
      split at h
      · simp at h
      · rename_i fields hfields
        split at h
        · simp at h
        · rename_i resource hname
          exact ⟨settings, fields, resource, hsettings, hfields, hname, (Except.ok.inj h).symm⟩
  · rintro ⟨settings, fields, resource, hsettings, hfields, hname, rfl⟩
    simp only [hsettings, hfields, hname]

section Prepared

variable {answer : Answer} {g : Generator} {artifacts : List Artifact}

/-- A dry run that has artifacts rehearses. -/
theorem run_of_dryRun (hprepare : prepare fs env request = .ok (g, artifacts))
    (hdry : request.dryRun = true) :
    run fs env request answer =
      ⟨.start request.name :: (rehearse fs g artifacts).1, (rehearse fs g artifacts).2, fs⟩ := by
  simp [run, hprepare, hdry]

/-- A run that need not ask performs what it prepared. -/
theorem run_of_free (hprepare : prepare fs env request = .ok (g, artifacts))
    (hdry : request.dryRun = false) (hfree : request.force = true ∨ existing fs artifacts = []) :
    run fs env request answer =
      { perform fs g artifacts with
        notices := .start request.name :: (perform fs g artifacts).notices } := by
  rcases hfree with hforce | hexisting
  · simp [run, hprepare, hdry, performIfAllowed, hforce]
  · simp [run, hprepare, hdry, performIfAllowed, hexisting]

end Prepared

end CrudForge.Scaffold
