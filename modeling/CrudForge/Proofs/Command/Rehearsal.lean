import CrudForge.Proofs.Command.Effects

/-!
# What a dry run foretells

A dry run says of each file whether it is new, unchanged or replaced. If its paths lead to different
places, and never up, a forced run from the same files does just that, with the lines that were
counted, and adds the route line that was shown.

## Main definitions

* `Scaffold.Run.standings` — what a run says of the files.
* `Scaffold.Created`, `Scaffold.Kept`, `Scaffold.Replaced` — what becomes of a file.
-/

namespace CrudForge.Scaffold

open FileSystem

/-- What a notice says of the file of an artifact. -/
def Notice.standing? : Notice → Option (Artifact × Standing)
  | .standing _ artifact s => some (artifact, s)
  | _ => none

/-- What a run says of the files. -/
def Run.standings (run : Run) : List (Artifact × Standing) :=
  run.notices.filterMap Notice.standing?

/-- The dry run of a request. -/
def Request.rehearsal (request : Request) : Request :=
  { request with dryRun := true }

/-- The request in earnest, without a question. -/
def Request.forced (request : Request) : Request :=
  { request with dryRun := false, force := true }

/-- Nothing was at `p`, and there is a file. -/
def Created (fs fs' : FileSystem) (p : Path) : Prop :=
  fs.entryAt? (fs.target p) = none ∧ (fs'.fileAt (fs.target p)).isSome

/-- There was a file at `p`, and it is as it was. -/
def Kept (fs fs' : FileSystem) (p : Path) : Prop :=
  (fs.fileAt (fs.target p)).isSome ∧ fs'.fileAt (fs.target p) = fs.fileAt (fs.target p)

/-- There was a file at `p`, and it has other content. -/
def Replaced (fs fs' : FileSystem) (p : Path) : Prop :=
  (fs.fileAt (fs.target p)).isSome ∧ (fs'.fileAt (fs.target p)).isSome ∧
    fs'.fileAt (fs.target p) ≠ fs.fileAt (fs.target p)

section Standing

variable {fs fs' : FileSystem} {p : Path}

theorem Created.fileAt_eq_none (h : Created fs fs' p) : fs.fileAt (fs.target p) = none := by
  simp [fileAt, h.1]

/-- A file that is created was not there to be kept or replaced. -/
theorem Created.not_kept_or_replaced (h : Created fs fs' p) :
    ¬(Kept fs fs' p ∨ Replaced fs fs' p) := by
  simp [Kept, Replaced, h.fileAt_eq_none]

theorem Kept.not_replaced (h : Kept fs fs' p) : ¬Replaced fs fs' p :=
  fun hreplaced => hreplaced.2.2 h.2

/-- How a file stands to its artifact: it is missing, the same, or another text. -/
theorem standing_cases {a : Artifact} {s : Standing} (h : standing fs a = .ok s) :
    (fs.exists? a.path = false ∧ s = .new (Text.countLines a.content)) ∨
    (fs.readText a.path = .ok a.content ∧ s = .unchanged) ∨
    ∃ current edits, fs.readText a.path = .ok current ∧ current ≠ a.content ∧
      s = .replaced edits := by
  unfold standing at h
  split at h
  · split at h
    · simp at h
    · rename_i current hread
      split at h
      · rename_i hsame
        exact .inr (.inl ⟨hsame ▸ hread, (Except.ok.inj h).symm⟩)
      · rename_i hother
        exact .inr (.inr ⟨current, _, hread, hother, (Except.ok.inj h).symm⟩)
  · rename_i hexists
    exact .inl ⟨by simpa using hexists, (Except.ok.inj h).symm⟩

theorem standing_of_not_exists {a : Artifact} (h : fs.exists? a.path = false) :
    standing fs a = .ok (.new (Text.countLines a.content)) := by
  simp [standing, h]

/-- What a standing says becomes true where the content is written. -/
theorem foretold_of_readFile {a : Artifact} {s : Standing} (hgrown : Extends fs fs')
    (hdescends : a.path.Descends) (hstanding : standing fs a = .ok s)
    (hread : fs'.readFile a.path = .ok a.content.toUTF8) :
    ((∃ n, s = .new n) ↔ Created fs fs' a.path) ∧ (s = .unchanged ↔ Kept fs fs' a.path) ∧
      ((∃ edits, s = .replaced edits) ↔ Replaced fs fs' a.path) ∧
      ∀ n, s = .new n → n = Text.countLines a.content := by
  obtain ⟨l, hlocate, hfile⟩ := readFile_eq_ok.1 hread
  obtain rfl := eq_target_of_locate hlocate
  rw [hgrown.target] at hlocate hfile
  rcases standing_cases hstanding with
    ⟨hexists, rfl⟩ | ⟨htext, rfl⟩ | ⟨current, edits, htext, hother, rfl⟩
  · have hnone : fs.entryAt? (fs.target a.path) = none := by
      have hiff := exists?_eq_true_iff_isSome hgrown hdescends hlocate
      simpa [hexists] using hiff
    have hcreated : Created fs fs' a.path := ⟨hnone, by simp [hfile]⟩
    simp [hcreated, not_or.1 hcreated.not_kept_or_replaced]
  · have hold := fileAt_of_readText htext
    have hkept : Kept fs fs' a.path := ⟨by simp [hold], hfile.trans hold.symm⟩
    have hcreated : ¬Created fs fs' a.path := fun h => h.not_kept_or_replaced (.inl hkept)
    simp [hkept, hcreated, hkept.not_replaced]
  · have hold := fileAt_of_readText htext
    have hreplaced : Replaced fs fs' a.path := by
      refine ⟨by simp [hold], by simp [hfile], ?_⟩
      rw [hfile, hold]
      intro hsame
      exact hother (String.toByteArray_inj.1 (Option.some.inj hsame)).symm
    have hcreated : ¬Created fs fs' a.path := fun h => h.not_kept_or_replaced (.inr hreplaced)
    have hkept : ¬Kept fs fs' a.path := fun h => h.not_replaced hreplaced
    simp [hreplaced, hcreated, hkept]

end Standing

section Rehearse

variable {fs : FileSystem} {env : Environment} {request : Request} {answer answer' : Answer}
  {g : Generator} {artifacts : List Artifact}

/-- A preview that ends well says something of every artifact, in order. -/
theorem standings_preview {layout : Layout} (h : (preview fs layout artifacts).2 = .ok ()) :
    ((preview fs layout artifacts).1.filterMap Notice.standing?).map (·.1) = artifacts := by
  induction artifacts with
  | nil => rfl
  | cons a rest ih =>
    rw [preview] at h ⊢
    cases hstanding : standing fs a with
    | error e => simp [hstanding] at h
    | ok s =>
      simp only [hstanding] at h ⊢
      simp [Notice.standing?, ih h]

/-- What a preview says of an artifact is how its file stands. -/
theorem standing_of_mem_preview {layout : Layout} {x : Artifact × Standing}
    (h : x ∈ (preview fs layout artifacts).1.filterMap Notice.standing?) :
    standing fs x.1 = .ok x.2 := by
  obtain ⟨n, hn, hx⟩ := List.mem_filterMap.1 h
  obtain ⟨a, -, s, hstanding, rfl⟩ := exists_of_mem_preview hn
  obtain rfl := Option.some.inj hx
  exact hstanding

/-- A rehearsal that ends well is a whole preview, with the route line behind it. -/
theorem rehearse_eq_ok (h : (rehearse fs g artifacts).2 = .ok ()) :
    (preview fs g.layout artifacts).2 = .ok () ∧
      (rehearse fs g artifacts).1 =
        .dryRun :: (preview fs g.layout artifacts).1 ++ [.routeAppended g.layout g.routeLine] := by
  unfold rehearse at h ⊢
  split at h
  · simp at h
  · rename_i hpreview
    simp [hpreview]

/-- A dry run that ends well says how each file stands, and shows the route line. -/
theorem run_rehearsal (hprepare : prepare fs env request = .ok (g, artifacts))
    (h : (run fs env request.rehearsal answer).outcome = .ok ()) :
    (run fs env request.rehearsal answer).standings.map (·.1) = artifacts ∧
      (∀ x ∈ (run fs env request.rehearsal answer).standings, standing fs x.1 = .ok x.2) ∧
      .routeAppended g.layout g.routeLine ∈ (run fs env request.rehearsal answer).notices := by
  have hrun : run fs env request.rehearsal answer =
      ⟨.start request.name :: (rehearse fs g artifacts).1, (rehearse fs g artifacts).2, fs⟩ :=
    run_of_dryRun hprepare rfl
  rw [hrun] at h ⊢
  obtain ⟨hpreview, hnotices⟩ := rehearse_eq_ok h
  have hstandings : Run.standings
      ⟨.start request.name :: (rehearse fs g artifacts).1, (rehearse fs g artifacts).2, fs⟩ =
        (preview fs g.layout artifacts).1.filterMap Notice.standing? := by
    simp [Run.standings, hnotices, List.filterMap_cons, Notice.standing?]
  rw [hstandings]
  exact ⟨standings_preview hpreview, fun x => standing_of_mem_preview, by simp [hnotices]⟩

end Rehearse

/-! ## What comes true -/

/-- What a dry run told of the files that `g` writes is what became of them in `fs'`. -/
structure Foretold (g : Generator) (fs : FileSystem) (told : Run) (fs' : FileSystem) : Prop where
  /-- The dry run tells of the file of each kind, in order. -/
  asked : told.standings.map (fun x => (x.1.kind, x.1.path)) =
    ArtifactKind.all.map fun kind => (kind, g.path kind)
  created : ∀ a s, (a, s) ∈ told.standings → ((∃ n, s = .new n) ↔ Created fs fs' a.path)
  kept : ∀ a s, (a, s) ∈ told.standings → (s = .unchanged ↔ Kept fs fs' a.path)
  replaced : ∀ a s, (a, s) ∈ told.standings →
    ((∃ edits, s = .replaced edits) ↔ Replaced fs fs' a.path)
  lines : ∀ a n, (a, .new n) ∈ told.standings →
    ∃ text, fs'.readText a.path = .ok text ∧ n = Text.countLines text
  others : ∀ l, (∀ p ∈ ArtifactKind.all.map g.path ++ [g.layout.routeFile], l ≠ fs.target p) →
    fs'.fileAt l = fs.fileAt l
  route : ∃ added, fs'.readFile g.layout.routeFile =
      .ok ((fs.fileAt (fs.target g.layout.routeFile)).getD .empty ++ added.toUTF8) ∧
    ∀ glyphs, .output ("\nappend " ++ Text.trim added ++ " → " ++
      shown g.layout g.layout.routeFile ++ "\n") ∈ told.notices.map (Notice.message glyphs)

section Foretold

variable {fs : FileSystem} {env : Environment} {request : Request} {answer answer' : Answer}
  {g : Generator}

/-- A dry run foretells the forced run: which files it creates, keeps and replaces, and how many
lines the new ones have. All other files are kept, but for the route file, which gets the line that
was shown. -/
theorem rehearsal_foretells (hgenerator : generator fs env request = .ok g)
    (hsep : Separate fs (ArtifactKind.all.map g.path ++ [g.layout.routeFile]))
    (hdry : (run fs env request.rehearsal answer).outcome = .ok ())
    (hforced : (run fs env request.forced answer').outcome = .ok ()) :
    Foretold g fs (run fs env request.rehearsal answer)
      (run fs env request.forced answer').files := by
  obtain ⟨g', artifacts, hprepare, -, hcompleted⟩ := completed_of_ok rfl hforced
  have hprepare : prepare fs env request = .ok (g', artifacts) := hprepare
  obtain ⟨hgenerator', hrender⟩ := prepare_eq_ok.1 hprepare
  obtain rfl := Except.ok.inj (hgenerator'.symm.trans hgenerator)
  have hplaces : artifacts.map (·.path) = ArtifactKind.all.map g'.path := by
    simpa [Function.comp_def] using congrArg (List.map Prod.snd) (paths_of_render hrender)
  rw [← hplaces] at hsep
  obtain ⟨hstandings, hstanding, hshown⟩ := run_rehearsal hprepare hdry
  -- from here on the forced run counts only by what it completed
  generalize (run fs env request.forced answer').files = fs' at hcompleted ⊢
  have hheld := hcompleted.holds hsep
  have hmem {a : Artifact} {s : Standing}
      (hx : (a, s) ∈ (run fs env request.rehearsal answer).standings) : a ∈ artifacts :=
    hstandings ▸ List.mem_map_of_mem hx
  have hforetold {a : Artifact} {s : Standing}
      (hx : (a, s) ∈ (run fs env request.rehearsal answer).standings) :=
    foretold_of_readFile hcompleted.grown
      (hsep.descends _ (List.mem_append_left _ (List.mem_map_of_mem (hmem hx))))
      (hstanding (a, s) hx) (hheld a (hmem hx))
  refine
    { asked := ?_
      created := fun a s hx => (hforetold hx).1
      kept := fun a s hx => (hforetold hx).2.1
      replaced := fun a s hx => (hforetold hx).2.2.1
      lines := fun a n hx =>
        ⟨a.content, readText_eq_ok.2 (hheld a (hmem hx)), (hforetold hx).2.2.2 n rfl⟩
      others := fun l hl => ?_
      route := ⟨g'.routeLine, hcompleted.readFile_routeFile hsep, fun glyphs => ?_⟩ }
  · rw [← paths_of_render hrender, ← hstandings, List.map_map]
    rfl
  · rw [← hplaces] at hl
    have hroute : l ≠ fs.target g'.layout.routeFile := hl _ (by simp)
    have hnone : lastContent? fs l artifacts = none :=
      lastContent?_eq_none.2 fun a ha => hl _ (List.mem_append_left _ (List.mem_map_of_mem ha))
    rw [hcompleted.fileAt, if_neg hroute, hnone, Option.none_or]
  · exact List.mem_map.2 ⟨_, hshown, rfl⟩

end Foretold

/-! ## Models beside the routes -/

namespace Beside

/-- A project with a model that was edited by hand and an empty controller. -/
def files : FileSystem :=
  Standard.withStubs ((FileSystem.empty.storeText ⟨"routes/Note.php"⟩ "kept").2.storeText
    ⟨"app/Http/Controllers/NoteController.php"⟩ "").2

/-- Variables that put models into the directory of the routes. -/
def env : Environment :=
  ⟨[("CRUDGEN_PATHS__MODELS_DIR", "./routes")]⟩

/-- A request for a resource without fields. -/
def request (resource : ResourceName) : Request where
  name := resource.text
  fields := ""
  root := ⟨""⟩
  settingsFile := none
  strict := false
  force := false
  dryRun := false

/-- The settings that the variables give. -/
def settings : Settings :=
  { Settings.standard with
    directories := { Settings.standard.directories with models := ⟨"./routes"⟩ } }

/-- The generator of a resource. -/
def g (resource : ResourceName) : Generator where
  resource
  fields := .empty
  layout := .of ⟨""⟩ settings
  stubs := stubs ⟨""⟩ settings

/-- What is made from the empty stubs. -/
def artifacts (resource : ResourceName) : List Artifact :=
  ArtifactKind.all.map fun kind => { kind, path := (g resource).path kind, content := "" }

/-- A resource whose model is written beside the routes. -/
def note : ResourceName :=
  ⟨"Note", by decide⟩

/-- A resource whose model is written to the file of the routes. -/
def web : ResourceName :=
  ⟨"web", by decide⟩

theorem load_eq_settings {fs : FileSystem}
    (hfile : fs.isFile (Settings.projectFile ⟨""⟩) = false) :
    Settings.load fs env ⟨""⟩ none = .ok settings := by
  have hadmitted : Settings.Admitted [⟨.environment, env.settings⟩] := by decide +kernel
  have hpick : Settings.pick [⟨.environment, env.settings⟩] = settings := by decide +kernel
  rw [Settings.load_of_environment hfile hadmitted, hpick]

/-- The variables alone count in all projects without a file of settings. -/
theorem generator_of_noFile {fs : FileSystem}
    (hfile : fs.isFile (Settings.projectFile ⟨""⟩) = false) (resource : ResourceName) :
    generator fs env (request resource) = .ok (g resource) := by
  have hname : ResourceName.ofString resource.text = .ok resource :=
    dif_pos resource.isClassName
  exact generator_eq_ok.2 ⟨_, _, _, load_eq_settings hfile, rfl, hname, rfl⟩

theorem generator_eq (resource : ResourceName) :
    generator files env (request resource) = .ok (g resource) :=
  generator_of_noFile (by decide +kernel) resource

/-- What both runs do ends well. -/
def EndsWell (resource : ResourceName) : Prop :=
  (g resource).render files = .ok (artifacts resource) ∧
    (rehearse files (g resource) (artifacts resource)).2.isOk = true ∧
    (perform files (g resource) (artifacts resource)).outcome.isOk = true

instance (resource : ResourceName) : Decidable (EndsWell resource) :=
  inferInstanceAs (Decidable ((g resource).render files = .ok (artifacts resource) ∧
    (rehearse files (g resource) (artifacts resource)).2.isOk = true ∧
    (perform files (g resource) (artifacts resource)).outcome.isOk = true))

variable {resource : ResourceName}

theorem EndsWell.prepared (h : EndsWell resource) :
    prepare files env (request resource) = .ok (g resource, artifacts resource) :=
  prepare_eq_ok.2 ⟨generator_eq resource, h.1⟩

theorem EndsWell.outcomes (h : EndsWell resource) :
    (run files env (request resource).rehearsal .noTerminal).outcome = .ok () ∧
      (run files env (request resource).forced .noTerminal).outcome = .ok () ∧
      (run files env (request resource).forced .noTerminal).files =
        (perform files (g resource) (artifacts resource)).files := by
  obtain ⟨⟨⟩, hrehearse⟩ := exists_eq_ok_of_isOk h.2.1
  obtain ⟨⟨⟩, hperform⟩ := exists_eq_ok_of_isOk h.2.2
  have hdry := @run_of_dryRun files env (request resource).rehearsal .noTerminal _ _ h.prepared rfl
  have hforced := @run_of_free files env (request resource).forced .noTerminal _ _ h.prepared rfl
    (.inl rfl)
  rw [hdry, hforced]
  dsimp only
  exact ⟨hrehearse, hperform, rfl⟩

end Beside

/-- One file is replaced, one is kept and three are new. -/
theorem rehearsal_foretells_beside :
    Separate Beside.files (ArtifactKind.all.map (Beside.g Beside.note).path ++
        [(Beside.g Beside.note).layout.routeFile]) ∧
      (run Beside.files Beside.env (Beside.request Beside.note).rehearsal .noTerminal).outcome =
        .ok () ∧
      (run Beside.files Beside.env (Beside.request Beside.note).forced .noTerminal).outcome =
        .ok () ∧
      Foretold (Beside.g Beside.note) Beside.files
        (run Beside.files Beside.env (Beside.request Beside.note).rehearsal .noTerminal)
        (run Beside.files Beside.env (Beside.request Beside.note).forced .noTerminal).files := by
  obtain ⟨hsep, hends⟩ : Separate Beside.files (ArtifactKind.all.map (Beside.g Beside.note).path ++
      [(Beside.g Beside.note).layout.routeFile]) ∧ Beside.EndsWell Beside.note := by
    decide +kernel
  obtain ⟨hdry, hforced, -⟩ := hends.outcomes
  exact ⟨hsep, hdry, hforced, rehearsal_foretells (Beside.generator_eq _) hsep hdry hforced⟩

/-- Paths that differ in their components may still lead to one file. The dry run then calls the
file of the model empty, but the forced run adds the route line to it. -/
theorem not_foretold_of_different :
    ¬∀ fs env request answer answer' g, generator fs env request = .ok g →
      ((ArtifactKind.all.map g.path ++ [g.layout.routeFile]).map Path.components).Nodup →
      (∀ p ∈ ArtifactKind.all.map g.path ++ [g.layout.routeFile], p.Descends) →
      (run fs env request.rehearsal answer).outcome = .ok () →
      (run fs env request.forced answer').outcome = .ok () →
        Foretold g fs (run fs env request.rehearsal answer)
          (run fs env request.forced answer').files := by
  intro hforetells
  obtain ⟨hdifferent, hdescends, hends, hexists, hmodel, hread⟩ :
      ((ArtifactKind.all.map (Beside.g Beside.web).path ++
        [(Beside.g Beside.web).layout.routeFile]).map Path.components).Nodup ∧
      (∀ p ∈ ArtifactKind.all.map (Beside.g Beside.web).path ++
        [(Beside.g Beside.web).layout.routeFile], p.Descends) ∧
      Beside.EndsWell Beside.web ∧
      Beside.files.exists? ⟨"./routes/web.php"⟩ = false ∧
      ⟨.model, ⟨"./routes/web.php"⟩, ""⟩ ∈ Beside.artifacts Beside.web ∧
      (perform Beside.files (Beside.g Beside.web) (Beside.artifacts Beside.web)).files.readText
        ⟨"./routes/web.php"⟩ = .ok (routeLine "web") := by decide +kernel
  obtain ⟨hdry, hforced, hfiles⟩ := hends.outcomes
  have hforetold := hforetells _ _ _ _ _ _ (Beside.generator_eq Beside.web) hdifferent hdescends
    hdry hforced
  obtain ⟨hstandings, hstanding, -⟩ := run_rehearsal hends.prepared hdry
  rw [← hstandings] at hmodel
  obtain ⟨⟨a, s⟩, hx, rfl⟩ := List.mem_map.1 hmodel
  obtain rfl : s = .new (Text.countLines "") :=
    Except.ok.inj ((hstanding (_, s) hx).symm.trans (standing_of_not_exists hexists))
  obtain ⟨text, htext, hlines⟩ := hforetold.lines _ _ hx
  rw [hfiles, hread] at htext
  obtain rfl := Except.ok.inj htext
  exact absurd hlines (by decide +kernel)

end CrudForge.Scaffold
