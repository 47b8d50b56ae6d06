import CrudForge.Command.Stubs
import CrudForge.Proofs.FileSystem.Descent
import CrudForge.Proofs.FileSystem.Region
import CrudForge.Proofs.Generation.Render

/-!
# Published stubs

Copying the built-in stubs into a directory is not seen by generation. What the directory had is
kept, and what it lacked was built in before and is a copy of that now. If all stubs are copied,
the directory is as good as the built-in ones.

## Main definitions

* `StubDirectory.Proper` — a path that never leads up, and stubs that stay in the directory.
* `StubDirectory.Proper.place` — where the stub of a kind is in the directory.
* `Stubs.Settled` — what copying makes of the stub of a kind.
* `Generator.over` — a generator with other stubs.
-/

namespace CrudForge

open FileSystem

/-! ## Places -/

/-- The path of the directory never leads up, and the extension does not lead elsewhere. -/
structure StubDirectory.Proper (stubs : StubDirectory) : Prop where
  descends : stubs.directory.Descends
  inside : '/' ∉ stubs.extension.toList

instance (stubs : StubDirectory) : Decidable stubs.Proper :=
  decidable_of_iff (stubs.directory.Descends ∧ '/' ∉ stubs.extension.toList)
    ⟨fun h => ⟨h.1, h.2⟩, fun h => ⟨h.descends, h.inside⟩⟩

/-- The last part of the name of a stub. -/
def ArtifactKind.stem : ArtifactKind → String
  | model => "Model"
  | controller => "Controller"
  | listView => "index"
  | createView => "create"
  | editView => "edit"

theorem isFileName_views : isFileName "views" = true := by
  decide

/-- The directory of a stub in the directory of all stubs. -/
def ArtifactKind.folder : ArtifactKind → List FileName
  | model | controller => []
  | listView | createView | editView => [⟨"views", isFileName_views⟩]

namespace StubDirectory.Proper

variable {stubs : StubDirectory} {fs : FileSystem} {kind kind' : ArtifactKind}

/-- The name of the file of a stub. -/
def fileName (h : stubs.Proper) (kind : ArtifactKind) : FileName where
  text := kind.stem ++ ("." ++ stubs.extension)
  isFileName := by
    have hslash : '/' ∉ (kind.stem ++ ("." ++ stubs.extension)).toList := by
      have hstem : '/' ∉ kind.stem.toList := by cases kind <;> decide
      simp [hstem, h.inside]
    cases kind
    all_goals exact isFileName_of_cons (String.toList_append ..) (by decide) hslash

/-- The place of a stub in the directory. -/
def place (h : stubs.Proper) (kind : ArtifactKind) : List FileName :=
  kind.folder ++ [h.fileName kind]

theorem place_ne_nil (h : stubs.Proper) (kind : ArtifactKind) : h.place kind ≠ [] := by
  simp [place]

/-- Stubs of different kinds are in different places, and none is below another. -/
theorem kind_of_place (h : stubs.Proper) (hplace : h.place kind <+: h.place kind') :
    kind = kind' := by
  cases kind <;> cases kind' <;>
    simp_all [place, fileName, ArtifactKind.folder, ArtifactKind.stem, List.cons_prefix_cons,
      ← String.toList_inj]

theorem path_eq (h : stubs.Proper) (kind : ArtifactKind) :
    (⟨kind.stubName ++ "." ++ stubs.extension⟩ : Path) = .ofNames (h.place kind) := by
  cases kind <;>
    simp [Path.ofNames, place, fileName, ArtifactKind.folder, ArtifactKind.stem,
      ArtifactKind.stubName, Text.join, ← String.toList_inj]

theorem file_eq (h : stubs.Proper) (kind : ArtifactKind) :
    stubs.file kind.stubName = stubs.directory.join (.ofNames (h.place kind)) := by
  rw [file, h.path_eq]

theorem descends_file (h : stubs.Proper) (kind : ArtifactKind) :
    (stubs.file kind.stubName).Descends := by
  have hdirectory := Path.descends_iff.1 h.descends
  rw [h.file_eq, Path.descends_iff, Path.steps_join_ofNames (h.place_ne_nil kind)]
  simpa using hdirectory

theorem not_suffix_target (h : stubs.Proper) (hne : kind ≠ kind') :
    ¬fs.target (stubs.file kind.stubName) <:+ fs.target (stubs.file kind'.stubName) := by
  intro hsuffix
  rw [h.file_eq, h.file_eq, target_join_ofNames (h.place_ne_nil _),
    target_join_ofNames (h.place_ne_nil _)] at hsuffix
  exact hne (h.kind_of_place (isPrefix_of_suffix hsuffix))

end StubDirectory.Proper

/-! ## Copying -/

theorem Stub.builtin?_stubName (kind : ArtifactKind) :
    Stub.builtin? kind.stubName = some (Stub.builtin kind) := by
  simp [Stub.builtin?]

namespace Stubs

/-- What copying makes of the stub of a kind: a stub that was there is kept unless copying is
forced, and otherwise it is the built-in one. -/
inductive Settled (stubs : StubDirectory) (force : Bool) (fs fs' : FileSystem)
    (kind : ArtifactKind) : Prop
  | kept (unforced : force = false) (old : fs.exists? (stubs.file kind.stubName) = true)
      (same : fs'.fileAt (fs.target (stubs.file kind.stubName)) =
        fs.fileAt (fs.target (stubs.file kind.stubName)))
  | copied (free : force = true ∨ fs.exists? (stubs.file kind.stubName) = false)
      (read : fs'.readText (stubs.file kind.stubName) = .ok (Stub.builtin kind))

variable {stubs : StubDirectory} {force : Bool} {fs fs' fs'' : FileSystem} {kind : ArtifactKind}
  {kinds : List ArtifactKind}

/-- Copying the stub of a kind and others behind it. -/
theorem publishNames_stubName (stubs : StubDirectory) (force : Bool) (fs : FileSystem)
    (kind : ArtifactKind) (names : List String) :
    publishNames stubs force fs (kind.stubName :: names) =
      if fs.exists? (stubs.file kind.stubName) && !force then
        let p := publishNames stubs force fs names
        { p with done := (kind.stubName, .kept) :: p.done }
      else
        match fs.storeText (stubs.file kind.stubName) (Stub.builtin kind) with
        | (.error e, fs') => ⟨[], .error e, fs'⟩
        | (.ok (), fs') =>
          let p := publishNames stubs force fs' names
          { p with done := (kind.stubName, .written) :: p.done } := by
  by_cases h : (fs.exists? (stubs.file kind.stubName) && !force) = true
  · simp only [publishNames, Stub.builtin?_stubName, if_pos h]
  · rcases hstore : fs.storeText (stubs.file kind.stubName) (Stub.builtin kind) with ⟨e | ⟨⟩, fs'⟩
    all_goals simp only [publishNames, Stub.builtin?_stubName, if_neg h, hstore]

/-- The files of the stubs of these kinds. -/
def filesOf (stubs : StubDirectory) (kinds : List ArtifactKind) : List Path :=
  kinds.map fun kind => stubs.file kind.stubName

theorem confined_storeText (h : stubs.Proper) (fs : FileSystem) (kind : ArtifactKind)
    (text : String) :
    Confined fs (fs.storeText (stubs.file kind.stubName) text).2 (filesOf stubs [kind]) :=
  confined_storeWith (h.descends_file kind) fun _ => text.toUTF8

/-- Copying changes nothing but the stubs. -/
theorem confined_publishNames (h : stubs.Proper) (kinds : List ArtifactKind) (fs : FileSystem) :
    Confined fs (publishNames stubs force fs (kinds.map (·.stubName))).files
      (filesOf stubs kinds) := by
  induction kinds generalizing fs with
  | nil => exact .refl fs _
  | cons kind kinds ih =>
    rw [List.map_cons, publishNames_stubName]
    split
    · exact (ih fs).mono (by simp [filesOf])
    · have hstore := confined_storeText h fs kind (Stub.builtin kind)
      split
      · rename_i e fs' hfailed
        rw [hfailed] at hstore
        exact hstore.mono (by simp [filesOf])
      · rename_i fs' hstored
        rw [hstored] at hstore
        exact hstore.trans (ih fs')

/-- Copying that succeeds keeps the first stub or stores it, and then copies the others. -/
theorem publishNames_eq_ok {names : List String}
    (hok : (publishNames stubs force fs (kind.stubName :: names)).outcome = .ok ()) :
    (force = false ∧ fs.exists? (stubs.file kind.stubName) = true ∧
      (publishNames stubs force fs names).outcome = .ok () ∧
      (publishNames stubs force fs (kind.stubName :: names)).files =
        (publishNames stubs force fs names).files) ∨
    ∃ fs', (force = true ∨ fs.exists? (stubs.file kind.stubName) = false) ∧
      fs.storeText (stubs.file kind.stubName) (Stub.builtin kind) = (.ok (), fs') ∧
      (publishNames stubs force fs' names).outcome = .ok () ∧
      (publishNames stubs force fs (kind.stubName :: names)).files =
        (publishNames stubs force fs' names).files := by
  rw [publishNames_stubName] at hok ⊢
  split at hok
  · rename_i hkept
    rw [if_pos hkept]
    grind
  · rename_i hcopied
    rw [if_neg hcopied]
    split at hok
    · simp at hok
    · rename_i fs' hstored
      rw [hstored]
      exact .inr ⟨fs', by grind, rfl, hok, rfl⟩

/-- Stubs of other kinds are as they were. -/
theorem same_of_notMem (h : stubs.Proper) (hconfined : Confined fs fs' (filesOf stubs kinds))
    (hnew : kind ∉ kinds) :
    fs'.exists? (stubs.file kind.stubName) = fs.exists? (stubs.file kind.stubName) ∧
      fs'.fileAt (fs.target (stubs.file kind.stubName)) =
        fs.fileAt (fs.target (stubs.file kind.stubName)) := by
  have hapart : ∀ q ∈ filesOf stubs kinds,
      ¬fs.target (stubs.file kind.stubName) <:+ fs.target q := by
    intro q hq
    obtain ⟨other, hother, rfl⟩ := List.mem_map.1 hq
    exact h.not_suffix_target fun heq => hnew (heq ▸ hother)
  exact ⟨hconfined.exists?_eq (h.descends_file kind) hapart,
    hconfined.files _ fun q hq heq => hapart q hq (heq ▸ List.suffix_refl _)⟩

namespace Settled

/-- What is settled stays so while stubs of other kinds are copied. -/
theorem of_later (h : stubs.Proper) (hsettled : Settled stubs force fs fs' kind)
    (hgrown : Extends fs fs') (hlater : Confined fs' fs'' (filesOf stubs kinds))
    (hnew : kind ∉ kinds) : Settled stubs force fs fs'' kind := by
  obtain ⟨-, hfile⟩ := same_of_notMem h hlater hnew
  cases hsettled with
  | kept hunforced hold hsame =>
    rw [hgrown.target] at hfile
    exact .kept hunforced hold (hfile.trans hsame)
  | copied hfree hread =>
    exact .copied hfree (readText_eq_ok.2 (hlater.grown.readFile hfile (readText_eq_ok.1 hread)))

/-- What is settled was settled already when stubs of other kinds were copied before. -/
theorem of_earlier (h : stubs.Proper) (hsettled : Settled stubs force fs' fs'' kind)
    (hearlier : Confined fs fs' (filesOf stubs kinds)) (hnew : kind ∉ kinds) :
    Settled stubs force fs fs'' kind := by
  obtain ⟨hexists, hfile⟩ := same_of_notMem h hearlier hnew
  cases hsettled with
  | kept hunforced hold hsame =>
    rw [hearlier.grown.target] at hsame
    exact .kept hunforced (hexists ▸ hold) (hsame.trans hfile)
  | copied hfree hread => exact .copied (hexists ▸ hfree) hread

end Settled

theorem readText_of_storeText {p : Path} {text : String}
    (h : fs.storeText p text = (.ok (), fs')) : Extends fs fs' ∧ fs'.readText p = .ok text := by
  have hstores := stores_storeWith fs p fun _ => text.toUTF8
  change Stores fs p _ (fs.storeText p text).1 (fs.storeText p text).2 at hstores
  rw [h] at hstores
  obtain ⟨hlocate, hfile⟩ := hstores.stored rfl
  refine ⟨hstores.grown, readText_eq_ok.2 (readFile_eq_ok.2 ⟨_, hlocate, ?_⟩)⟩
  rw [hfile, if_pos rfl]

/-- Copying that succeeds settles all stubs. -/
theorem settled_publishNames (h : stubs.Proper) (hdistinct : kinds.Nodup)
    (hok : (publishNames stubs force fs (kinds.map (·.stubName))).outcome = .ok ()) :
    ∀ kind ∈ kinds,
      Settled stubs force fs (publishNames stubs force fs (kinds.map (·.stubName))).files kind := by
  induction kinds generalizing fs with
  | nil => simp
  | cons kind kinds ih =>
    obtain ⟨hnew, hdistinct⟩ := List.nodup_cons.1 hdistinct
    have hrest (fs : FileSystem) :
        Confined fs (publishNames stubs force fs (kinds.map (·.stubName))).files
          (filesOf stubs kinds) := confined_publishNames h kinds fs
    rw [List.map_cons] at hok ⊢
    rcases publishNames_eq_ok hok with
      ⟨hunforced, hold, hok, hfiles⟩ | ⟨fs', hfree, hstored, hok, hfiles⟩
    · rw [hfiles]
      refine List.forall_mem_cons.2 ⟨?_, ih hdistinct hok⟩
      exact Settled.of_later h (.kept hunforced hold rfl) (.refl fs) (hrest fs) hnew
    · rw [hfiles]
      obtain ⟨hgrown, hread⟩ := readText_of_storeText hstored
      have hfirst := confined_storeText h fs kind (Stub.builtin kind)
      rw [hstored] at hfirst
      -- later copies spare the first stub, and the first copy spares what the later ones find
      refine List.forall_mem_cons.2 ⟨?_, fun other hother => ?_⟩
      · exact Settled.of_later h (.copied hfree hread) hgrown (hrest fs') hnew
      · have hne : other ∉ [kind] := fun hmem => hnew (List.mem_singleton.1 hmem ▸ hother)
        exact Settled.of_earlier h (ih hdistinct hok other hother) hfirst hne

end Stubs

/-! ## Generating -/

section Load

variable {stubs : StubDirectory} {fs fs' : FileSystem} {p : Path} {name text : String}
  {fallback : Bool} {kind : ArtifactKind}

theorem loadFrom_eq_ok :
    StubSource.loadFrom stubs fs name = .ok text ↔ fs.readText (stubs.file name) = .ok text := by
  unfold StubSource.loadFrom
  cases fs.readText (stubs.file name) <;> simp only [reduceCtorEq, Except.ok.injEq]

/-- A stub of the directory is found with the built-in ones behind it and without. -/
theorem load_layered_of_readText (h : fs.readText (stubs.file name) = .ok text) :
    (StubSource.layered stubs fallback).load fs name = .ok text := by
  unfold StubSource.load
  simp only [loadFrom_eq_ok.2 h]

theorem load_layered_of_missing (h : fs.readText (stubs.file name) = .error .missing) :
    (StubSource.layered stubs true).load fs name = StubSource.loadBuiltin name := by
  unfold StubSource.load StubSource.loadFrom
  simp only [h, if_true]

/-- A stub is found in the directory, or it is missing there and built in. -/
theorem load_layered_eq_ok :
    (StubSource.layered stubs true).load fs name = .ok text ↔
      fs.readText (stubs.file name) = .ok text ∨
        fs.readText (stubs.file name) = .error .missing ∧
          StubSource.loadBuiltin name = .ok text := by
  cases hread : fs.readText (stubs.file name) with
  | ok found =>
    rw [load_layered_of_readText hread]
    grind
  | error e =>
    by_cases hmissing : e = .missing
    · subst hmissing
      rw [load_layered_of_missing hread]
      grind
    · unfold StubSource.load StubSource.loadFrom
      simp only [hread]
      grind

theorem loadBuiltin_stubName (kind : ArtifactKind) :
    StubSource.loadBuiltin kind.stubName = .ok (Stub.builtin kind) := by
  unfold StubSource.loadBuiltin
  simp only [Stub.builtin?_stubName]

theorem exists?_of_readText (h : fs.readText p = .ok text) : fs.exists? p = true := by
  obtain ⟨l, hlocate, hl⟩ := readFile_eq_ok.1 (readText_eq_ok.1 h)
  exact exists?_eq_true.2 ⟨l, hlocate, by simp [fileAt_eq_some_iff.1 hl]⟩

/-- A stub is told as missing only if there is nothing in its place. -/
theorem exists?_of_readText_missing (h : fs.readText p = .error .missing) :
    fs.exists? p = false := by
  unfold readText readFile at h
  unfold exists?
  cases hfind : fs.find p with
  | error e => rfl
  | ok e => cases e <;> grind

/-- A stub that was found is found again with the same text when all is settled. -/
theorem Stubs.Settled.load_of_load (h : Settled stubs false fs fs' kind) (hgrown : Extends fs fs')
    (hload : (StubSource.layered stubs true).load fs kind.stubName = .ok text) :
    (StubSource.layered stubs fallback).load fs' kind.stubName = .ok text := by
  refine load_layered_of_readText ?_
  rcases load_layered_eq_ok.1 hload with hread | ⟨hmissing, hbuiltin⟩
  -- reading and asking whether the stub exists agree on what was there before
  · cases h with
    | kept _ _ hsame => exact readText_eq_ok.2 (hgrown.readFile hsame (readText_eq_ok.1 hread))
    | copied hfree _ => simp [exists?_of_readText hread] at hfree
  · cases h with
    | kept _ hold _ => simp [exists?_of_readText_missing hmissing] at hold
    | copied _ hread =>
      have htext : Stub.builtin kind = text :=
        Except.ok.inj ((loadBuiltin_stubName kind).symm.trans hbuiltin)
      rw [hread, htext]

/-- A stub that was copied by force is the built-in one. -/
theorem Stubs.Settled.load_of_force (h : Settled stubs true fs fs' kind) :
    (StubSource.layered stubs fallback).load fs' kind.stubName =
      StubSource.loadBuiltin kind.stubName := by
  cases h with
  | kept hunforced => simp at hunforced
  | copied _ hread => rw [load_layered_of_readText hread, loadBuiltin_stubName]

end Load

/-- The generator with other stubs. -/
def Generator.over (g : Generator) (stubs : StubSource) : Generator :=
  { g with stubs }

section Over

variable {g : Generator} {fs fs' : FileSystem} {source source' : StubSource}
  {artifacts : List Artifact}

theorem renderKind_over (g : Generator) (source : StubSource) (fs : FileSystem)
    (kind : ArtifactKind) :
    (g.over source).renderKind fs kind =
      (source.load fs kind.stubName).map fun stub =>
        ⟨kind, g.path kind, Template.fill stub (g.values kind)⟩ := by
  have hvalues : (g.over source).values kind = g.values kind := by cases kind <;> rfl
  have hpath : (g.over source).path kind = g.path kind := by cases kind <;> rfl
  unfold Generator.renderKind StubSource.render
  rw [hvalues, hpath, show (g.over source).stubs = source from rfl]
  cases source.load fs kind.stubName <;> rfl

/-- Rendering depends on nothing of the stubs but their texts. -/
theorem render_over_congr
    (h : ∀ kind, source'.load fs' (ArtifactKind.stubName kind) = source.load fs kind.stubName) :
    (g.over source').render fs' = (g.over source).render fs :=
  render_congr fun kind => by rw [renderKind_over, renderKind_over, h]

/-- For what is rendered all stubs are found. -/
theorem exists_load_of_render (h : (g.over source).render fs = .ok artifacts)
    (kind : ArtifactKind) : ∃ text, source.load fs kind.stubName = .ok text := by
  obtain ⟨hkinds, hall⟩ := render_eq_ok.1 h
  have hkind : kind ∈ artifacts.map (·.kind) := by
    rw [hkinds]
    cases kind <;> decide
  obtain ⟨a, ha, rfl⟩ := List.mem_map.1 hkind
  have hrender := hall a ha
  rw [renderKind_over] at hrender
  cases hload : source.load fs a.kind.stubName with
  | ok text => exact ⟨text, rfl⟩
  | error e => simp [hload, Except.map] at hrender

/-- The built-in stubs can always be rendered. -/
theorem render_over_builtin (g : Generator) (fs : FileSystem) :
    (g.over .builtin).render fs = .ok (ArtifactKind.all.map fun kind =>
      ⟨kind, g.path kind, Template.fill (Stub.builtin kind) (g.values kind)⟩) := by
  have hload (kind : ArtifactKind) :
      StubSource.builtin.load fs kind.stubName = .ok (Stub.builtin kind) :=
    loadBuiltin_stubName kind
  refine render_eq_ok.2 ⟨by simp [Function.comp_def], fun a ha => ?_⟩
  obtain ⟨kind, -, rfl⟩ := List.mem_map.1 ha
  rw [renderKind_over]
  simp only [hload, Except.map]

end Over

/-! ## Publishing -/

section Publish

variable {stubs : StubDirectory}

theorem settled_publish (h : stubs.Proper) {force : Bool} {fs : FileSystem}
    (hok : (Stubs.publish stubs force fs).outcome = .ok ()) (kind : ArtifactKind) :
    Stubs.Settled stubs force fs (Stubs.publish stubs force fs).files kind :=
  Stubs.settled_publishNames h (by decide) hok kind (by cases kind <;> decide)

/-- Publishing the stubs is not seen by generation: the artifacts that were rendered before, one of
each kind, are rendered again, from the directory alone or with the built-in stubs behind it. After
publishing by force the directory renders as the built-in stubs do. -/
theorem render_publish (h : stubs.Proper) (g : Generator) (fs : FileSystem) (fallback : Bool) :
    (∀ artifacts, (g.over (.layered stubs true)).render fs = .ok artifacts →
      (Stubs.publish stubs false fs).outcome = .ok () →
        artifacts.map (·.kind) = ArtifactKind.all ∧
          (g.over (.layered stubs fallback)).render (Stubs.publish stubs false fs).files =
            .ok artifacts) ∧
    ((Stubs.publish stubs true fs).outcome = .ok () →
      ∃ artifacts, artifacts.map (·.kind) = ArtifactKind.all ∧
        (∀ fs', (g.over .builtin).render fs' = .ok artifacts) ∧
        (g.over (.layered stubs fallback)).render (Stubs.publish stubs true fs).files =
          .ok artifacts) := by
  constructor
  · intro artifacts hrender hok
    have hgrown : Extends fs (Stubs.publish stubs false fs).files :=
      (Stubs.confined_publishNames h ArtifactKind.all fs).grown
    have hload (kind : ArtifactKind) :
        (StubSource.layered stubs fallback).load (Stubs.publish stubs false fs).files
            kind.stubName = (StubSource.layered stubs true).load fs kind.stubName := by
      obtain ⟨text, htext⟩ := exists_load_of_render hrender kind
      rw [(settled_publish h hok kind).load_of_load hgrown htext, htext]
    refine ⟨(render_eq_ok.1 hrender).1, ?_⟩
    rw [render_over_congr hload, hrender]
  · intro hok
    have hload (kind : ArtifactKind) :
        (StubSource.layered stubs fallback).load (Stubs.publish stubs true fs).files
            kind.stubName = StubSource.builtin.load fs kind.stubName :=
      (settled_publish h hok kind).load_of_force
    refine ⟨_, (render_eq_ok.1 (render_over_builtin g fs)).1, render_over_builtin g, ?_⟩
    rw [render_over_congr hload, render_over_builtin]

end Publish

namespace Customised

/-- The standard directory of stubs. -/
def stubs : StubDirectory :=
  .of ⟨""⟩ .standard

/-- A project with a model stub of its own. -/
def files : FileSystem :=
  (FileSystem.empty.storeText ⟨"resources/stubs/Model.stub"⟩ "class").2

/-- A generator with the standard settings. -/
def g : Generator where
  resource := ⟨"Item", by decide⟩
  fields := .empty
  layout := .of ⟨""⟩ .standard
  stubs := .builtin

end Customised

/-- Four stubs are copied, and the directory alone then renders all that was rendered before. -/
theorem render_publish_customised :
    Customised.stubs.Proper ∧
      ∃ artifacts,
        artifacts.map (·.kind) = ArtifactKind.all ∧
        (Customised.g.over (.layered Customised.stubs true)).render Customised.files =
          .ok artifacts ∧
        (Stubs.publish Customised.stubs false Customised.files).count = 4 ∧
        (Customised.g.over (.layered Customised.stubs false)).render
          (Stubs.publish Customised.stubs false Customised.files).files = .ok artifacts := by
  have hproper : Customised.stubs.Proper := by decide +kernel
  have hcount : (Stubs.publish Customised.stubs false Customised.files).count = 4 := by
    decide +kernel
  obtain ⟨artifacts, hrender⟩ : ∃ artifacts,
      (Customised.g.over (.layered Customised.stubs true)).render Customised.files =
        .ok artifacts := exists_eq_ok_of_isOk (by decide +kernel)
  obtain ⟨⟨⟩, hpublish⟩ : ∃ done,
      (Stubs.publish Customised.stubs false Customised.files).outcome = .ok done :=
    exists_eq_ok_of_isOk (by decide +kernel)
  obtain ⟨hkinds, hafter⟩ :=
    (render_publish hproper Customised.g Customised.files false).1 artifacts hrender hpublish
  exact ⟨hproper, artifacts, hkinds, hrender, hcount, hafter⟩

end CrudForge
