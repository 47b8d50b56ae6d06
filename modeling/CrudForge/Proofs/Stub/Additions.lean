import CrudForge.Command.StubsText
import CrudForge.Proofs.Stub.Publication

/-!
# What copying stubs adds

Copying the built-in stubs without force only adds files. Whatever was there stays as it was, also
if copying stops half way, and every new file is a built-in stub where nothing was. When all stubs
are there, copying again adds nothing. Copying by force brings all built-in stubs back.

## Main definitions

* `FileSystem.newFiles` — the locations of the files where nothing was before.
* `Stubs.Adds` — old entries are as they were, and new files are built-in stubs.
* `Stubs.Publication.Tells` — copying succeeds, and tells how many stubs it copied.
* `Stubs.Completes`, `Stubs.Restores` — what copying without and with force leaves if it succeeds.
-/

namespace CrudForge

open FileSystem

/-! ## New files -/

namespace FileSystem

/-- The locations of the files of `fs'` where `fs` has nothing. -/
def newFiles (fs fs' : FileSystem) : List Location :=
  (fs'.entries.map (·.1)).filter fun l => (fs'.fileAt l).isSome && (fs.entryAt? l).isNone

variable {fs fs' : FileSystem} {l : Location}

theorem nodup_newFiles (fs fs' : FileSystem) : (fs.newFiles fs').Nodup :=
  fs'.distinct.filter _

theorem mem_newFiles :
    l ∈ fs.newFiles fs' ↔ (∃ content, fs'.fileAt l = some content) ∧ fs.entryAt? l = none := by
  simp only [newFiles, List.mem_filter, Bool.and_eq_true, Option.isSome_iff_exists,
    Option.isNone_iff_eq_none, and_iff_right_iff_imp]
  rintro ⟨⟨content, hcontent⟩, -⟩
  exact List.mem_map.2 ⟨_, entryAt?_eq_some_iff.1 (fileAt_eq_some_iff.1 hcontent), rfl⟩

end FileSystem

namespace Stubs

variable {stubs : StubDirectory} {force : Bool} {fs fs' fs'' : FileSystem} {kind : ArtifactKind}
  {kinds : List ArtifactKind}

/-! ## Old entries and new files -/

/-- All entries are as they were, and each new file is the built-in stub of one of the kinds, whose
path led nowhere. -/
structure Adds (stubs : StubDirectory) (kinds : List ArtifactKind) (fs fs' : FileSystem) :
    Prop where
  old : ∀ {l : Location} {e : Entry}, fs.entryAt? l = some e → fs'.entryAt? l = some e
  new : ∀ {l : Location} {content : ByteArray}, fs.entryAt? l = none →
    fs'.fileAt l = some content → ∃ kind ∈ kinds, l = fs.target (stubs.file kind.stubName) ∧
      fs.exists? (stubs.file kind.stubName) = false ∧ content = (Stub.builtin kind).toUTF8

namespace Adds

theorem refl (stubs : StubDirectory) (kinds : List ArtifactKind) (fs : FileSystem) :
    Adds stubs kinds fs fs where
  old hl := hl
  new hnone hfile := by simp [fileAt_eq_some_iff, hnone] at hfile

theorem mono {more : List ArtifactKind} (h : Adds stubs kinds fs fs') (hmore : kinds ⊆ more) :
    Adds stubs more fs fs' where
  old := h.old
  new hnone hfile := by
    obtain ⟨kind, hkind, hnew⟩ := h.new hnone hfile
    exact ⟨kind, hmore hkind, hnew⟩

/-- What was added first is old for what is added later. -/
theorem trans (h : Adds stubs kinds fs fs') (h' : Adds stubs kinds fs' fs'')
    (hgrown : Extends fs fs') : Adds stubs kinds fs fs'' where
  old hl := h'.old (h.old hl)
  new := by
    intro l content hnone hfile
    cases hmiddle : fs'.entryAt? l with
    | none =>
      obtain ⟨kind, hkind, hl, hfree, hcontent⟩ := h'.new hmiddle hfile
      have hfree' : fs.exists? (stubs.file kind.stubName) = false := by
        refine Bool.eq_false_iff.2 fun hexists => ?_
        simp [hgrown.exists? hexists] at hfree
      exact ⟨kind, hkind, hgrown.target _ ▸ hl, hfree', hcontent⟩
    | some e =>
      have hkept := h'.old hmiddle
      rw [fileAt_eq_some_iff.1 hfile] at hkept
      exact h.new hnone (fileAt_eq_some_iff.2 (hmiddle.trans hkept.symm))

end Adds

/-- Where a path without double dots leads later, nothing was if it led nowhere before. -/
theorem entryAt?_eq_none (hgrown : Extends fs fs') {p : Path} (hp : p.Descends)
    (hlocate : fs'.locate p = .ok (fs.target p)) (hfree : fs.exists? p = false) :
    fs.entryAt? (fs.target p) = none := by
  have hiff := exists?_eq_true_iff_isSome hgrown hp hlocate
  simpa [hfree] using hiff

/-- Storing a stub whose path leads nowhere adds it, if it does anything. -/
theorem adds_storeText (h : stubs.Proper)
    (hfree : fs.exists? (stubs.file kind.stubName) = false) :
    Adds stubs [kind] fs (fs.storeText (stubs.file kind.stubName) (Stub.builtin kind)).2 := by
  have hstores := stores_storeWith fs (stubs.file kind.stubName)
    fun _ => (Stub.builtin kind).toUTF8
  change Stores fs _ _ (fs.storeText _ _).1 (fs.storeText _ _).2 at hstores
  cases htold : (fs.storeText (stubs.file kind.stubName) (Stub.builtin kind)).1 with
  | error e =>
    have hsame := hstores.failed htold
    refine ⟨fun hl => hstores.grown.entryAt? (hsame _) hl, fun hnone hfile => ?_⟩
    rw [hsame, fileAt_eq_some_iff, hnone] at hfile
    simp at hfile
  | ok =>
    obtain ⟨hlocate, hfile⟩ := hstores.stored htold
    have hvacant := entryAt?_eq_none hstores.grown (h.descends_file kind) hlocate hfree
    refine ⟨fun {l e} hl => ?_, fun {l content} hnone hnew => ?_⟩
    · have hne : l ≠ fs.target (stubs.file kind.stubName) := by
        rintro rfl
        simp [hvacant] at hl
      exact hstores.grown.entryAt? (by rw [hfile, if_neg hne]) hl
    · rw [hfile] at hnew
      split at hnew
      · rename_i hl
        exact ⟨kind, by simp, hl, hfree, (Option.some.inj hnew).symm⟩
      · simp [fileAt_eq_some_iff, hnone] at hnew

/-- Copying without force only adds stubs, also if it stops half way. -/
theorem adds_publishNames (h : stubs.Proper) (kinds : List ArtifactKind) (fs : FileSystem) :
    Adds stubs kinds fs (publishNames stubs false fs (kinds.map (·.stubName))).files := by
  induction kinds generalizing fs with
  | nil => exact .refl stubs [] fs
  | cons kind kinds ih =>
    rw [List.map_cons, publishNames_stubName]
    split
    · exact (ih fs).mono (List.subset_cons_self _ _)
    · rename_i hcopied
      have hfirst := adds_storeText h (by simpa using hcopied)
      have hgrown := (confined_storeText h fs kind (Stub.builtin kind)).grown
      rcases hstore : fs.storeText (stubs.file kind.stubName) (Stub.builtin kind) with ⟨e | ⟨⟩, fs'⟩
      all_goals rw [hstore] at hfirst hgrown
      · exact hfirst.mono (by simp)
      · exact (hfirst.mono (by simp)).trans ((ih fs').mono (List.subset_cons_self _ _)) hgrown

/-! ## What was copied -/

/-- Copying that succeeds keeps what existed before and copies all else, or copies all by force. -/
theorem done_publishNames (h : stubs.Proper) (hdistinct : kinds.Nodup)
    (hok : (publishNames stubs force fs (kinds.map (·.stubName))).outcome = .ok ()) :
    (publishNames stubs force fs (kinds.map (·.stubName))).done = kinds.map fun kind =>
      (kind.stubName, if fs.exists? (stubs.file kind.stubName) && !force then .kept
        else .written) := by
  induction kinds generalizing fs with
  | nil => rfl
  | cons kind kinds ih =>
    obtain ⟨hnew, hdistinct⟩ := List.nodup_cons.1 hdistinct
    rw [List.map_cons, publishNames_stubName] at hok ⊢
    rw [List.map_cons]
    split at hok
    · rename_i hkept
      rw [if_pos hkept, if_pos hkept, ← ih hdistinct hok]
    · rename_i hcopied
      rw [if_neg hcopied, if_neg hcopied]
      split at hok
      · simp at hok
      · rename_i fs' hstored
        have hfirst := confined_storeText h fs kind (Stub.builtin kind)
        rw [hstored] at hfirst
        -- the first copy does not make any other stub exist
        have hsame : ∀ other ∈ kinds, fs'.exists? (stubs.file other.stubName) =
            fs.exists? (stubs.file other.stubName) := by
          intro other hother
          have hne : other ∉ [kind] := fun hmem => hnew (List.mem_singleton.1 hmem ▸ hother)
          exact (same_of_notMem h hfirst hne).1
        have hrest := ih hdistinct hok
        simp only [hrest]
        refine congrArg _ (List.map_congr_left fun other hother => ?_)
        rw [hsame other hother]

/-- The stubs that are copied are those whose paths lead nowhere, or all by force. -/
theorem count_publish (h : stubs.Proper) (hok : (publish stubs force fs).outcome = .ok ()) :
    (publish stubs force fs).count =
      (ArtifactKind.all.filter fun kind =>
        force || !fs.exists? (stubs.file kind.stubName)).length := by
  have hkinds : ArtifactKind.all.Nodup := by decide
  have hdone : (publish stubs force fs).done = _ := done_publishNames h hkinds hok
  rw [Publication.count, hdone, List.filter_map, List.length_map]
  congr 2
  funext kind
  cases force <;> cases hexists : fs.exists? (stubs.file kind.stubName) <;> simp [hexists]

/-- Where a copied stub is, there is a new file. -/
theorem length_newFiles_publish (h : stubs.Proper)
    (hok : (publish stubs false fs).outcome = .ok ()) :
    (fs.newFiles (publish stubs false fs).files).length = (publish stubs false fs).count := by
  have hadds : Adds stubs ArtifactKind.all fs (publish stubs false fs).files :=
    adds_publishNames h ArtifactKind.all fs
  have hgrown : Extends fs (publish stubs false fs).files :=
    (confined_publishNames h ArtifactKind.all fs).grown
  have hmem (l : Location) : l ∈ fs.newFiles (publish stubs false fs).files ↔
      l ∈ (ArtifactKind.all.filter fun kind =>
        false || !fs.exists? (stubs.file kind.stubName)).map fun kind =>
          fs.target (stubs.file kind.stubName) := by
    simp only [mem_newFiles, List.mem_map, List.mem_filter, Bool.false_or, Bool.not_eq_true']
    constructor
    · rintro ⟨⟨content, hcontent⟩, hnone⟩
      obtain ⟨kind, hkind, hl, hfree, -⟩ := hadds.new hnone hcontent
      exact ⟨kind, ⟨hkind, hfree⟩, hl.symm⟩
    · rintro ⟨kind, ⟨-, hfree⟩, rfl⟩
      cases settled_publish h hok kind with
      | kept _ hold => simp [hold] at hfree
      | copied _ hread =>
        obtain ⟨l, hlocate, hl⟩ := readFile_eq_ok.1 (readText_eq_ok.1 hread)
        obtain rfl := eq_target_of_locate hlocate
        rw [hgrown.target] at hlocate hl
        exact ⟨⟨_, hl⟩, entryAt?_eq_none hgrown (h.descends_file kind) hlocate hfree⟩
  rw [count_publish h hok, ← List.length_map fun kind : ArtifactKind =>
    fs.target (stubs.file kind.stubName)]
  refine ((List.perm_ext_iff_of_nodup (nodup_newFiles _ _) ?_).2 hmem).length_eq
  have hkinds : ArtifactKind.all.Nodup := by decide
  refine List.pairwise_map.2 ((hkinds.filter _).imp fun {kind kind'} hne heq => ?_)
  have hsuffix : fs.target (stubs.file kind.stubName) <:+ fs.target (stubs.file kind'.stubName) :=
    heq ▸ List.suffix_refl _
  exact h.not_suffix_target hne hsuffix

/-- Copying finds nothing to do where all stubs exist. -/
theorem publishNames_of_exists
    (hold : ∀ kind ∈ kinds, fs.exists? (stubs.file (ArtifactKind.stubName kind)) = true) :
    publishNames stubs false fs (kinds.map (·.stubName)) =
      ⟨kinds.map fun kind => (kind.stubName, .kept), .ok (), fs⟩ := by
  induction kinds with
  | nil => rfl
  | cons kind kinds ih =>
    obtain ⟨hfirst, hrest⟩ := List.forall_mem_cons.1 hold
    rw [List.map_cons, publishNames_stubName, if_pos (by simp [hfirst]), ih hrest]
    rfl

/-! ## What is told -/

/-- Copying succeeds, and its text ends with the number of stubs that were copied. -/
structure Publication.Tells (p : Publication) (count : Nat) : Prop where
  outcome : p.outcome = .ok ()
  printed : ∀ glyphs directory, ∃ lines,
    publicationText glyphs directory p = lines ++ "Published " ++ toString count ++ " stubs\n"

theorem Publication.tells_count {p : Publication} (hok : p.outcome = .ok ()) :
    p.Tells p.count := by
  refine ⟨hok, fun glyphs directory => ⟨glyphs.folder ++ "Publishing stubs to " ++
    directory.text ++ "\n\n" ++ Text.concat (p.done.map (handlingLine glyphs)) ++ "\n" ++
    glyphs.check, ?_⟩⟩
  simp only [publicationText, hok, String.append_assoc]

/-! ## Copying that succeeds -/

/-- All stubs exist. The number that is told is that of the new files, and copying again changes
nothing and tells of no stub. -/
structure Completes (stubs : StubDirectory) (fs : FileSystem) (p : Publication) : Prop where
  present : ∀ kind, p.files.exists? (stubs.file (ArtifactKind.stubName kind)) = true
  told : p.Tells (fs.newFiles p.files).length
  unchanged : (publish stubs false p.files).files = p.files
  idle : (publish stubs false p.files).Tells 0

/-- All stubs are the built-in ones. Five are told to be copied, nothing is removed, and no other
file is new or different. -/
structure Restores (stubs : StubDirectory) (fs : FileSystem) (p : Publication) : Prop where
  builtin : ∀ kind, p.files.readText (stubs.file kind.stubName) = .ok (Stub.builtin kind)
  told : p.Tells 5
  grown : Extends fs p.files
  others : ∀ l, (∀ kind, l ≠ fs.target (stubs.file (ArtifactKind.stubName kind))) →
    p.files.fileAt l = fs.fileAt l

theorem completes_publish (h : stubs.Proper) (hok : (publish stubs false fs).outcome = .ok ()) :
    Completes stubs fs (publish stubs false fs) := by
  have hgrown : Extends fs (publish stubs false fs).files :=
    (confined_publishNames h ArtifactKind.all fs).grown
  have hpresent (kind : ArtifactKind) :
      (publish stubs false fs).files.exists? (stubs.file kind.stubName) = true := by
    cases settled_publish h hok kind with
    | kept _ hold => exact hgrown.exists? hold
    | copied _ hread => exact exists?_of_readText hread
  have hall : ∀ kind ∈ ArtifactKind.all,
      (publish stubs false fs).files.exists? (stubs.file (ArtifactKind.stubName kind)) = true :=
    fun kind _ => hpresent kind
  have hagain : publish stubs false (publish stubs false fs).files = _ :=
    publishNames_of_exists hall
  refine ⟨hpresent, ?_, by rw [hagain], ?_⟩
  · rw [length_newFiles_publish h hok]
    exact Publication.tells_count hok
  · rw [hagain]
    exact Publication.tells_count rfl

theorem restores_publish (h : stubs.Proper) (hok : (publish stubs true fs).outcome = .ok ()) :
    Restores stubs fs (publish stubs true fs) := by
  have hconfined : Confined fs (publish stubs true fs).files (filesOf stubs ArtifactKind.all) :=
    confined_publishNames h ArtifactKind.all fs
  refine ⟨fun kind => ?_, ?_, hconfined.grown, fun l hl => hconfined.files l fun p hp => ?_⟩
  · cases settled_publish h hok kind with
    | kept hunforced => simp at hunforced
    | copied _ hread => exact hread
  · have hcount : (publish stubs true fs).count = 5 := count_publish h hok
    exact hcount ▸ Publication.tells_count hok
  · obtain ⟨kind, -, rfl⟩ := List.mem_map.1 hp
    exact hl kind

/-- Publishing without force keeps all that was there and only adds built-in stubs, whether it
succeeds or stops half way. If it succeeds, all stubs are there and doing it again does nothing.
Publishing by force brings all built-in stubs back and spares all other files. -/
theorem publish_adds (h : stubs.Proper) (fs : FileSystem) :
    Adds stubs ArtifactKind.all fs (publish stubs false fs).files ∧
      ((publish stubs false fs).outcome = .ok () → Completes stubs fs (publish stubs false fs)) ∧
      ((publish stubs true fs).outcome = .ok () → Restores stubs fs (publish stubs true fs)) :=
  ⟨adds_publishNames h ArtifactKind.all fs, completes_publish h, restores_publish h⟩

end Stubs

/-- A project with a model stub of its own, and a file where the directory of the view stubs would
be. -/
def Customised.obstructed : FileSystem :=
  (Customised.files.storeText ⟨"resources/stubs/views"⟩ "text").2

/-- Four stubs join one that is kept, or all five are copied by force. Where a file is in the way
only the stub of the controller is added. -/
theorem Stubs.publish_adds_customised :
    Customised.stubs.Proper ∧
      (publish Customised.stubs false Customised.files).Tells 4 ∧
      Completes Customised.stubs Customised.files
        (publish Customised.stubs false Customised.files) ∧
      Restores Customised.stubs Customised.files
        (publish Customised.stubs true Customised.files) ∧
      (publish Customised.stubs false Customised.obstructed).outcome.isOk = false ∧
      Adds Customised.stubs ArtifactKind.all Customised.obstructed
        (publish Customised.stubs false Customised.obstructed).files ∧
      (Customised.obstructed.newFiles
        (publish Customised.stubs false Customised.obstructed).files).length = 1 := by
  have hproper : Customised.stubs.Proper := by decide +kernel
  obtain ⟨⟨⟩, hunforced⟩ : ∃ done,
      (publish Customised.stubs false Customised.files).outcome = .ok done :=
    exists_eq_ok_of_isOk (by decide +kernel)
  obtain ⟨⟨⟩, hforced⟩ : ∃ done,
      (publish Customised.stubs true Customised.files).outcome = .ok done :=
    exists_eq_ok_of_isOk (by decide +kernel)
  obtain ⟨-, hcompletes, hrestores⟩ := publish_adds hproper Customised.files
  have hcount : (Customised.files.newFiles
      (publish Customised.stubs false Customised.files).files).length = 4 := by decide +kernel
  refine ⟨hproper, hcount ▸ (hcompletes hunforced).told, hcompletes hunforced,
    hrestores hforced, ?_, (publish_adds hproper Customised.obstructed).1, ?_⟩
  · decide +kernel
  · decide +kernel

end CrudForge
