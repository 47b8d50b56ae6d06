import CrudForge.Command.StubsText
import CrudForge.Proofs.Command.Rehearsal
import CrudForge.Proofs.Diff.Printed
import CrudForge.Proofs.Stub.Publication

/-!
# The differences that commands print

The comparison of a stub prints all lines of both texts, and a dry run prints, for each file that
would be replaced, the lines in which it differs from its new content. Neither leaves out, adds or
moves a line.

## Main definitions

* `Stubs.Run.Compares` — a run that prints how a stub differs from the built-in one.
* `Scaffold.Run.ShowsReplaced` — a run that prints how a file would change.
-/

namespace CrudForge

open FileSystem

/-- The run prints, under the name of the stub, how the copy differs from the built-in text, and
leaves the files as they are. -/
structure Stubs.Run.Compares (run : Stubs.Run) (fs : FileSystem) (glyphs : Glyphs)
    (name builtin copy : String) : Prop where
  output : ∃ printed, run.output = glyphs.file ++ name ++ "\n\n" ++ printed ++ "\n" ∧
    Diff.Shows builtin copy printed
  outcome : run.outcome = .ok ()
  files : run.files = fs

/-- The run prints, under the path of the artifact, how its content differs from `current`. -/
def Scaffold.Run.ShowsReplaced (run : Scaffold.Run) (glyphs : Glyphs) (layout : Layout)
    (artifact : Artifact) (current : String) : Prop :=
  ∃ printed,
    .output ("\nreplace " ++ shown layout artifact.path ++ "\n" ++ printed) ∈
      run.notices.map (·.message glyphs) ∧
    Diff.ShowsChanges current artifact.content printed

/-! ## Stubs -/

namespace Stubs

variable {fs : FileSystem} {stubs : StubDirectory} {name builtin copy : String}

theorem compare_of_readText (hbuiltin : Stub.builtin? name = some builtin)
    (hcopy : fs.readText (stubs.file name) = .ok copy) :
    compare stubs fs name = .compared (Diff.ofTexts builtin copy) := by
  simp [compare, hbuiltin, hcopy, exists?_of_readText hcopy]

section Run

variable {env : Environment} {root : Path} {settingsFile : Option Path} {settings : Settings}

theorem run_compare (hload : Settings.load fs env root settingsFile = .ok settings)
    (name : String) :
    run fs env root settingsFile (.compare name) =
      let told := comparisonText (.ofEnvironment env) name (compare (.of root settings) fs name)
      ⟨told.1, told.2, fs⟩ := by
  unfold run
  rw [hload]

theorem comparisonText_compared (glyphs : Glyphs) (name : String)
    (edits : List (Diff.Edit String)) :
    comparisonText glyphs name (.compared edits) =
      (glyphs.file ++ name ++ "\n\n" ++ Text.concat (edits.map Diff.shown) ++ "\n", .ok ()) :=
  rfl

theorem compares_run (hload : Settings.load fs env root settingsFile = .ok settings)
    (hbuiltin : Stub.builtin? name = some builtin)
    (hcopy : fs.readText ((StubDirectory.of root settings).file name) = .ok copy) :
    (run fs env root settingsFile (.compare name)).Compares fs (.ofEnvironment env) name builtin
      copy := by
  rw [run_compare hload, compare_of_readText hbuiltin hcopy, comparisonText_compared]
  exact ⟨⟨_, rfl, Diff.shows_ofTexts builtin copy⟩, rfl, rfl⟩

end Run

end Stubs

/-! ## Dry runs -/

namespace Scaffold

variable {fs : FileSystem} {a : Artifact} {current : String}

/-- A dry run prepares what the run in earnest prepares. -/
theorem prepare_rehearsal (fs : FileSystem) (env : Environment) (request : Request) :
    prepare fs env request.rehearsal = prepare fs env request :=
  rfl

theorem standing_of_readText (hread : fs.readText a.path = .ok current)
    (hother : current ≠ a.content) :
    standing fs a = .ok (.replaced (Diff.ofTexts current a.content)) := by
  simp [standing, exists?_of_readText hread, hread, hother]

/-- Nothing stops a preview at a file that can be read, or at none. -/
theorem exists_standing (h : fs.exists? a.path = true → ∃ text, fs.readText a.path = .ok text) :
    ∃ s, standing fs a = .ok s := by
  by_cases hexists : fs.exists? a.path = true
  · obtain ⟨text, hread⟩ := h hexists
    by_cases hsame : text = a.content
    · exact ⟨.unchanged, by simp [standing, hexists, hread, hsame]⟩
    · exact ⟨_, standing_of_readText hread hsame⟩
  · exact ⟨_, standing_of_not_exists (by simpa using hexists)⟩

/-- A preview gets to every artifact that has no unreadable file before it. -/
theorem standing_mem_preview {before : List Artifact} {s : Standing}
    (hbefore : ∀ b ∈ before, ∃ s, standing fs b = .ok s) (hstanding : standing fs a = .ok s)
    (layout : Layout) (after : List Artifact) :
    .standing layout a s ∈ (preview fs layout (before ++ a :: after)).1 := by
  induction before with
  | nil => simp [preview, hstanding]
  | cons b before ih =>
    obtain ⟨⟨s', hs'⟩, hbefore⟩ := List.forall_mem_cons.1 hbefore
    rw [List.cons_append, preview, hs']
    exact List.mem_cons_of_mem _ (ih hbefore)

theorem mem_rehearse {g : Generator} {artifacts : List Artifact} {n : Notice}
    (h : n ∈ (preview fs g.layout artifacts).1) : n ∈ (rehearse fs g artifacts).1 := by
  unfold rehearse
  split <;> simp_all

theorem showsReplaced_run {env : Environment} {request : Request} {answer : Answer}
    {g : Generator} {before after : List Artifact}
    (hprepare : prepare fs env request = .ok (g, before ++ a :: after))
    (hdry : request.dryRun = true)
    (hbefore : ∀ b ∈ before, fs.exists? b.path = true → ∃ text, fs.readText b.path = .ok text)
    (hread : fs.readText a.path = .ok current) (hother : current ≠ a.content) :
    (run fs env request answer).ShowsReplaced (.ofEnvironment env) g.layout a current := by
  have hreached : ∀ b ∈ before, ∃ s, standing fs b = .ok s :=
    fun b hb => exists_standing (hbefore b hb)
  have hmem := standing_mem_preview hreached (standing_of_readText hread hother) g.layout after
  rw [run_of_dryRun hprepare hdry]
  refine ⟨_, List.mem_map.2 ⟨_, List.mem_cons_of_mem _ (mem_rehearse hmem), rfl⟩, ?_⟩
  exact Diff.IsScript.showsChanges (Diff.isScript_edits _ _)

end Scaffold

/-- Printed differences are faithful, whatever the texts. The comparison of a built-in stub with a
copy that can be read shows both. A dry run shows how every file changes whose text is not its new
content, unless it stops at one before that cannot be read. What is printed would show as much of
any other script between the lines. -/
theorem differences_faithful (fs : FileSystem) (env : Environment) :
    (∀ root settingsFile settings name builtin copy,
      Settings.load fs env root settingsFile = .ok settings →
      Stub.builtin? name = some builtin →
      fs.readText ((StubDirectory.of root settings).file name) = .ok copy →
        (Stubs.run fs env root settingsFile (.compare name)).Compares fs (.ofEnvironment env) name
          builtin copy) ∧
    (∀ request answer g before a after current,
      Scaffold.prepare fs env request = .ok (g, before ++ a :: after) →
      request.dryRun = true →
      (∀ b ∈ before, fs.exists? b.path = true → ∃ text, fs.readText b.path = .ok text) →
      fs.readText a.path = .ok current →
      current ≠ a.content →
        (Scaffold.run fs env request answer).ShowsReplaced (.ofEnvironment env) g.layout a
          current) ∧
    ∀ old new edits, Diff.IsScript (Text.lines old) (Text.lines new) edits →
      Diff.ShowsLines old new (Text.concat (edits.map Diff.shown)) ∧
      Diff.ShowsChanges old new (Text.concat ((edits.filter (·.fate ≠ .keep)).map Diff.shown)) :=
  ⟨fun _ _ _ _ _ _ => Stubs.compares_run, fun _ _ _ _ _ _ _ => Scaffold.showsReplaced_run,
    fun _ _ _ h => ⟨h.showsLines, h.showsChanges⟩⟩

namespace Scaffold.Edited

/-- What the project has for the stub of models. -/
def copy : String :=
  "again\r\nagain\rend"

/-- A model that no line feed ends. -/
def current : String :=
  "again\nagain"

/-- A project with its own stub of models, and a model that was edited by hand. -/
def files : FileSystem :=
  ((Beside.files.storeText ⟨"resources/stubs/Model.stub"⟩ copy).2.storeText
    ⟨"routes/Note.php"⟩ current).2

/-- The model as it would be. -/
def model : Artifact :=
  ⟨.model, ⟨"./routes/Note.php"⟩, copy⟩

theorem noFile : files.isFile (Settings.projectFile ⟨""⟩) = false := by
  decide +kernel

theorem prepare_eq : prepare files Beside.env (Beside.request Beside.note).rehearsal =
    .ok (Beside.g Beside.note, [] ++ model :: (Beside.artifacts Beside.note).tail) := by
  have hrender : (Beside.g Beside.note).render files =
      .ok (model :: (Beside.artifacts Beside.note).tail) := by
    decide +kernel
  rw [prepare_rehearsal]
  exact prepare_eq_ok.2 ⟨Beside.generator_of_noFile noFile Beside.note, hrender⟩

end Scaffold.Edited

/-- Lines that stand twice, carriage returns and ends without a line feed are shown. -/
theorem differences_faithful_edited :
    (Stubs.run Scaffold.Edited.files Scaffold.Beside.env ⟨""⟩ none (.compare "Model")).Compares
        Scaffold.Edited.files (.ofEnvironment Scaffold.Beside.env) "Model" (Stub.builtin .model)
        Scaffold.Edited.copy ∧
      (Scaffold.run Scaffold.Edited.files Scaffold.Beside.env
          (Scaffold.Beside.request Scaffold.Beside.note).rehearsal .noTerminal).ShowsReplaced
        (.ofEnvironment Scaffold.Beside.env) (Scaffold.Beside.g Scaffold.Beside.note).layout
        Scaffold.Edited.model Scaffold.Edited.current := by
  have hcopy : Scaffold.Edited.files.readText
      ((StubDirectory.of ⟨""⟩ Scaffold.Beside.settings).file "Model") =
        .ok Scaffold.Edited.copy := by
    decide +kernel
  have hcurrent : Scaffold.Edited.files.readText Scaffold.Edited.model.path =
      .ok Scaffold.Edited.current := by
    decide +kernel
  obtain ⟨hcompares, hshows, -⟩ :=
    differences_faithful Scaffold.Edited.files Scaffold.Beside.env
  exact ⟨hcompares _ _ _ _ _ _ (Scaffold.Beside.load_eq_settings Scaffold.Edited.noFile)
      (Stub.builtin?_stubName .model) hcopy,
    hshows _ _ _ [] _ _ _ Scaffold.Edited.prepare_eq rfl (fun _ hb => absurd hb List.not_mem_nil)
      hcurrent (by decide)⟩

end CrudForge
