import CrudForge.Proofs.Generation.Render
import CrudForge.Proofs.FileSystem.Walk
import CrudForge.Proofs.Stub.Publication
import Mathlib.Data.List.Nodup

/-!
# Whether rendering succeeds

Every stub is supplied by the project, or by the built-in ones if the project lacks it and they are
allowed. Rendering makes all artifacts if every stub is supplied, and nothing otherwise: it stops at
the first stub that is not and tells why that one could not be read. A stub that is there but cannot
be read is never replaced by the built-in one.

## Main definitions

* `StubDirectory.Supplies` — where the text of a stub comes from.
* `StubDirectory.Lacks` — why there is no text for a stub.
* `FileSystem.Broken` — paths at which there is something, but no text.
* `Generator.AllOrNothing` — how rendering ends.
-/

namespace CrudForge

open FileSystem

/-! ## Broken paths -/

namespace FileSystem

variable {fs : FileSystem} {p : Path}

/-- Some first part of the path leads to a file, and the path goes on behind it. -/
def BelowFile (fs : FileSystem) (p : Path) : Prop :=
  ∃ first step rest l content,
    (if p.endsInSlash then p.steps ++ [.stay] else p.steps) = first ++ step :: rest ∧
      fs.walk (fs.origin p) first = .ok l ∧ fs.entryAt? l = some (.file content)

/-- Something stands in the way of reading a text at `p`: a directory in its place, a file on the
way, or bytes that are no text. -/
inductive Broken (fs : FileSystem) (p : Path) : Prop
  | directory (found : fs.isDirectory p = true)
  | belowFile (below : fs.BelowFile p)
  | notText {content : ByteArray} (found : fs.readFile p = .ok content)
      (undecodable : String.fromUTF8? content = none)

theorem walk_of_file {l m : Location} {first rest : List Step} {step : Step} {content : ByteArray}
    (hwalk : fs.walk l first = .ok m) (hfile : fs.entryAt? m = some (.file content)) :
    fs.walk l (first ++ step :: rest) = .error .notDirectory := by
  rw [walk_append_of_ok hwalk, walk_cons, hfile]

theorem pathFault?_ne_missing (h : p.text ≠ "") : pathFault? p ≠ some .missing := by
  unfold pathFault?
  split
  · simp
  · split <;> simp

theorem readText_of_locate {e : AccessError} (h : fs.locate p = .error e) :
    fs.readText p = .error e := by
  unfold readText readFile find
  simp only [h]

/-- What is broken cannot be read, and is not told as missing. -/
theorem Broken.readText (h : fs.Broken p) (hne : p.text ≠ "") :
    ∃ cause, fs.readText p = .error cause ∧ cause ≠ .missing := by
  cases h with
  | directory found =>
    obtain ⟨l, hlocate, hl⟩ := isDirectory_eq_true.1 found
    refine ⟨.isDirectory, ?_, by decide⟩
    unfold FileSystem.readText readFile find
    simp only [hlocate, hl]
  | belowFile below =>
    obtain ⟨first, step, rest, l, content, hsteps, hwalk, hfile⟩ := below
    cases hfault : pathFault? p with
    | some e =>
      have hlocate : fs.locate p = .error e := by
        unfold locate
        simp only [hfault]
      refine ⟨e, readText_of_locate hlocate, ?_⟩
      rintro rfl
      exact pathFault?_ne_missing hne hfault
    | none =>
      have hlocate : fs.locate p = .error .notDirectory := by
        unfold locate
        simp only [hfault, hsteps]
        exact walk_of_file hwalk hfile
      exact ⟨.notDirectory, readText_of_locate hlocate, by decide⟩
  | notText found undecodable =>
    refine ⟨.notText, ?_, by decide⟩
    unfold FileSystem.readText
    simp only [found, undecodable]

end FileSystem

theorem StubDirectory.text_file_ne_empty (stubs : StubDirectory) (name : String) :
    (stubs.file name).text ≠ "" := by
  unfold file Path.join
  split
  · simp
  · split <;> simp

/-! ## One stub -/

namespace StubDirectory

/-- `text` is what generation uses as the stub of a kind: the project's own, or the built-in one
where the project has none. -/
inductive Supplies (stubs : StubDirectory) (fallback : Bool) (fs : FileSystem)
    (kind : ArtifactKind) (text : String) : Prop
  | own (read : fs.readText (stubs.file kind.stubName) = .ok text)
  | builtin (missing : fs.readText (stubs.file kind.stubName) = .error .missing)
      (allowed : fallback = true) (same : text = Stub.builtin kind)

/-- The stub of a kind cannot be read because of `cause`, and no built-in one stands in for it. -/
structure Lacks (stubs : StubDirectory) (fallback : Bool) (fs : FileSystem) (kind : ArtifactKind)
    (cause : AccessError) : Prop where
  unread : fs.readText (stubs.file kind.stubName) = .error cause
  alone : cause = .missing → fallback = false

variable {stubs : StubDirectory} {fallback : Bool} {fs : FileSystem} {kind : ArtifactKind}

/-- A stub is read in the directory. Only one that is missing there may be the built-in one. -/
theorem load_layered (stubs : StubDirectory) (fallback : Bool) (fs : FileSystem)
    (kind : ArtifactKind) :
    (StubSource.layered stubs fallback).load fs kind.stubName =
      match fs.readText (stubs.file kind.stubName) with
      | .ok text => .ok text
      | .error cause =>
        if cause = .missing ∧ fallback = true then .ok (Stub.builtin kind)
        else .error ⟨kind.stubName, .access cause⟩ := by
  unfold StubSource.load StubSource.loadFrom
  cases hread : fs.readText (stubs.file kind.stubName) with
  | ok text => simp only [hread]
  | error cause => cases cause <;> cases fallback <;> simp [hread, loadBuiltin_stubName]

theorem load_layered_eq_ok_iff {text : String} :
    (StubSource.layered stubs fallback).load fs kind.stubName = .ok text ↔
      stubs.Supplies fallback fs kind text := by
  rw [load_layered]
  constructor
  · intro h
    split at h
    · rename_i found hread
      exact .own (hread.trans (congrArg Except.ok (Except.ok.inj h)))
    · rename_i cause hread
      split at h
      · rename_i hmissing
        exact .builtin (hmissing.1 ▸ hread) hmissing.2 (Except.ok.inj h).symm
      · simp at h
  · rintro (hread | ⟨hmissing, rfl, rfl⟩)
    · simp only [hread]
    · simp only [hmissing, and_self, if_true]

theorem load_layered_eq_error_iff {e : StubError} :
    (StubSource.layered stubs fallback).load fs kind.stubName = .error e ↔
      ∃ cause, stubs.Lacks fallback fs kind cause ∧ e = ⟨kind.stubName, .access cause⟩ := by
  rw [load_layered]
  constructor
  · intro h
    split at h
    · simp at h
    · rename_i cause hread
      split at h
      · simp at h
      · rename_i hfound
        exact ⟨cause, ⟨hread, by grind⟩, (Except.error.inj h).symm⟩
  · rintro ⟨cause, ⟨hread, halone⟩, rfl⟩
    simp only [hread]
    exact if_neg (by grind)

theorem lacks_of_broken (fallback : Bool) (h : fs.Broken (stubs.file kind.stubName)) :
    ∃ cause, stubs.Lacks fallback fs kind cause := by
  obtain ⟨cause, hread, hne⟩ := h.readText (stubs.text_file_ne_empty _)
  exact ⟨cause, hread, fun hmissing => absurd hmissing hne⟩

end StubDirectory

/-! ## All stubs -/

section Render

variable {g : Generator} {stubs : StubDirectory} {fallback : Bool} {fs : FileSystem}

/-- Rendering stops at the first kind that cannot be rendered. -/
theorem renderKinds_eq_error {kinds : List ArtifactKind} {e : StubError} :
    g.renderKinds fs kinds = .error e ↔
      ∃ before kind behind, kinds = before ++ kind :: behind ∧
        (∀ k ∈ before, ∃ a, g.renderKind fs k = .ok a) ∧ g.renderKind fs kind = .error e := by
  induction kinds with
  | nil => simp [Generator.renderKinds]
  | cons first rest ih =>
    rw [Generator.renderKinds]
    constructor
    · intro h
      split at h
      · rename_i e' hfirst
        obtain rfl := Except.error.inj h
        exact ⟨[], first, rest, rfl, by simp, hfirst⟩
      · rename_i a hfirst
        split at h
        · rename_i e' hrest
          obtain rfl := Except.error.inj h
          obtain ⟨before, kind, behind, rfl, hbefore, hkind⟩ := ih.1 hrest
          exact ⟨first :: before, kind, behind, rfl, List.forall_mem_cons.2 ⟨⟨a, hfirst⟩, hbefore⟩,
            hkind⟩
        · simp at h
    · rintro ⟨before, kind, behind, hsplit, hbefore, hkind⟩
      cases before with
      | nil =>
        obtain ⟨rfl, rfl⟩ := List.cons.inj hsplit
        simp only [hkind]
      | cons other before =>
        obtain ⟨rfl, rfl⟩ := List.cons.inj hsplit
        obtain ⟨⟨a, hfirst⟩, hbefore⟩ := List.forall_mem_cons.1 hbefore
        simp only [hfirst, ih.2 ⟨before, kind, behind, rfl, hbefore, hkind⟩]

/-- A kind is rendered exactly if its stub is supplied. -/
theorem renderKind_eq_ok_iff {kind : ArtifactKind} {a : Artifact} :
    (g.over (.layered stubs fallback)).renderKind fs kind = .ok a ↔
      ∃ text, stubs.Supplies fallback fs kind text ∧
        a = ⟨kind, g.path kind, Template.fill text (g.values kind)⟩ := by
  rw [renderKind_over]
  constructor
  · intro h
    cases hload : (StubSource.layered stubs fallback).load fs kind.stubName with
    | error e => simp [hload, Except.map] at h
    | ok text =>
      rw [hload] at h
      exact ⟨text, StubDirectory.load_layered_eq_ok_iff.1 hload, (Except.ok.inj h).symm⟩
  · rintro ⟨text, hsupplied, rfl⟩
    rw [StubDirectory.load_layered_eq_ok_iff.2 hsupplied]
    rfl

theorem renderKind_eq_error_iff {kind : ArtifactKind} {e : StubError} :
    (g.over (.layered stubs fallback)).renderKind fs kind = .error e ↔
      ∃ cause, stubs.Lacks fallback fs kind cause ∧ e = ⟨kind.stubName, .access cause⟩ := by
  rw [renderKind_over, ← StubDirectory.load_layered_eq_error_iff]
  cases (StubSource.layered stubs fallback).load fs kind.stubName <;> simp [Except.map]

theorem exists_render_eq_ok_iff :
    (∃ artifacts, (g.over (.layered stubs fallback)).render fs = .ok artifacts) ↔
      ∀ kind, ∃ text, stubs.Supplies fallback fs kind text := by
  constructor
  · rintro ⟨artifacts, hrender⟩ kind
    obtain ⟨text, hload⟩ := exists_load_of_render hrender kind
    exact ⟨text, StubDirectory.load_layered_eq_ok_iff.1 hload⟩
  · intro hsupplied
    cases hrender : (g.over (.layered stubs fallback)).render fs with
    | ok artifacts => exact ⟨artifacts, rfl⟩
    | error e =>
      obtain ⟨-, kind, -, -, -, hkind⟩ := renderKinds_eq_error.1 hrender
      obtain ⟨text, htext⟩ := hsupplied kind
      rw [renderKind_eq_ok_iff.2 ⟨text, htext, rfl⟩] at hkind
      simp at hkind

theorem render_eq_error_iff {e : StubError} :
    (g.over (.layered stubs fallback)).render fs = .error e ↔
      ∃ before kind behind cause, ArtifactKind.all = before ++ kind :: behind ∧
        (∀ k ∈ before, ∃ text, stubs.Supplies fallback fs k text) ∧
        stubs.Lacks fallback fs kind cause ∧ e = ⟨kind.stubName, .access cause⟩ := by
  have hsupplied (k : ArtifactKind) :
      (∃ a, (g.over (.layered stubs fallback)).renderKind fs k = .ok a) ↔
        ∃ text, stubs.Supplies fallback fs k text := by
    simp only [renderKind_eq_ok_iff]
    grind
  unfold Generator.render
  simp only [renderKinds_eq_error, renderKind_eq_error_iff, hsupplied]
  grind

end Render

/-- How rendering with the stubs of a project ends, with or without the built-in stubs behind
them. -/
structure Generator.AllOrNothing (g : Generator) (stubs : StubDirectory) (fallback : Bool)
    (fs : FileSystem) : Prop where
  /-- It succeeds exactly if every stub is supplied. -/
  succeeds : (∃ artifacts, (g.over (.layered stubs fallback)).render fs = .ok artifacts) ↔
    ∀ kind, ∃ text, stubs.Supplies fallback fs kind text
  /-- Then there is one artifact of each kind, in order, each made alone from its own stub. -/
  complete : ∀ artifacts, (g.over (.layered stubs fallback)).render fs = .ok artifacts →
    artifacts.map (·.kind) = ArtifactKind.all ∧
      ∀ a ∈ artifacts, (g.over (.layered stubs fallback)).renderKind fs a.kind = .ok a ∧
        ∃ text, stubs.Supplies fallback fs a.kind text ∧
          a = ⟨a.kind, g.path a.kind, Template.fill text (g.values a.kind)⟩
  /-- It fails with the error of the first stub that is not supplied. -/
  first : ∀ e, (g.over (.layered stubs fallback)).render fs = .error e ↔
    ∃ before kind behind cause, ArtifactKind.all = before ++ kind :: behind ∧
      (∀ k ∈ before, ∃ text, stubs.Supplies fallback fs k text) ∧
      stubs.Lacks fallback fs kind cause ∧ e = ⟨kind.stubName, .access cause⟩
  /-- No built-in stub stands in for one that is broken. -/
  broken : ∀ kind : ArtifactKind, fs.Broken (stubs.file kind.stubName) →
    ∃ e, (g.over (.layered stubs fallback)).render fs = .error e
  /-- A failure leaves the files as they are, tells that none was written, and gives back no sink in
  place of the one that was there. -/
  untouched : ∀ e sink, (g.over (.layered stubs fallback)).render fs = .error e →
    (g.over (.layered stubs fallback)).generate fs sink = (.error ⟨[], .stub e⟩, fs)

/-- Rendering makes everything or nothing, and no broken stub of a project is hidden. -/
theorem allOrNothing_render (g : Generator) (stubs : StubDirectory) (fallback : Bool)
    (fs : FileSystem) : g.AllOrNothing stubs fallback fs where
  succeeds := exists_render_eq_ok_iff
  complete artifacts hrender := by
    obtain ⟨hkinds, hall⟩ := render_eq_ok.1 hrender
    exact ⟨hkinds, fun a ha => ⟨hall a ha, renderKind_eq_ok_iff.1 (hall a ha)⟩⟩
  first _ := render_eq_error_iff
  broken kind hbroken := by
    cases hrender : (g.over (.layered stubs fallback)).render fs with
    | error e => exact ⟨e, rfl⟩
    | ok artifacts =>
      obtain ⟨cause, hlacks⟩ := StubDirectory.lacks_of_broken fallback hbroken
      obtain ⟨text, hsupplied⟩ := exists_render_eq_ok_iff.1 ⟨artifacts, hrender⟩ kind
      have hload := StubDirectory.load_layered_eq_ok_iff.2 hsupplied
      rw [StubDirectory.load_layered_eq_error_iff.2 ⟨cause, hlacks, rfl⟩] at hload
      simp at hload
  untouched e sink hrender := by
    unfold Generator.generate
    rw [hrender]

/-- A project with a controller stub that is no text and a directory for a view stub. -/
def Customised.brokenFiles : FileSystem :=
  let controller : Path := ⟨"resources/stubs/Controller.stub"⟩
  let fs := (FileSystem.empty.createDirectories ⟨"resources/stubs/views/index.stub"⟩).2
  (fs.storeWith controller fun fs' => fs'.writeFile controller ⟨#[0xFF]⟩).2

/-- The model stub is missing, which is no failure, but the controller stub behind it is. -/
theorem allOrNothing_render_undecodable :
    Customised.brokenFiles.Broken (Customised.stubs.file "Controller") ∧
      Customised.brokenFiles.Broken (Customised.stubs.file "views/index") ∧
      (Customised.g.over (.layered Customised.stubs true)).generate Customised.brokenFiles
          .fresh =
        (.error ⟨[], .stub ⟨"Controller", .access .notText⟩⟩, Customised.brokenFiles) := by
  have houtcome := allOrNothing_render Customised.g Customised.stubs true Customised.brokenFiles
  have hmodel : Customised.brokenFiles.readText (Customised.stubs.file "Model") =
      .error .missing := by decide +kernel
  have hbytes : Customised.brokenFiles.readFile (Customised.stubs.file "Controller") =
      .ok ⟨#[0xFF]⟩ := by decide +kernel
  have hcontroller : Customised.brokenFiles.readText (Customised.stubs.file "Controller") =
      .error .notText := by decide +kernel
  refine ⟨.notText hbytes (by decide +kernel), .directory (by decide +kernel), ?_⟩
  refine houtcome.untouched _ _ ((houtcome.first _).2 ?_)
  refine ⟨[.model], .controller, _, .notText, rfl, ?_, ⟨hcontroller, by decide⟩, rfl⟩
  exact List.forall_mem_singleton.2 ⟨_, .builtin hmodel rfl rfl⟩

end CrudForge
