import CrudForge.Proofs.FileSystem.Below
import CrudForge.Proofs.Stub.Publication
import CrudForge.Proofs.Text.ByteOrder

/-!
# What the list of stubs tells

The list finds stubs by going through the directory, and generation by their paths. On the way the
list takes every backslash for a slash. So it tells the truth exactly if the paths of the stubs have
no backslashes: otherwise it calls a file by a name under which no one will find it.

## Main definitions

* `StubDirectory.HasStub` — a file below the directory is the stub of a name.
* `StubDirectory.Uses` — generation takes the stub of a name from the directory.
* `Stubs.Survey.Truthful` — a list of what the directory has for generation and of what else it has.
-/

namespace CrudForge

open FileSystem

/-- The file at `names` below the directory is the stub of that name. -/
def StubDirectory.HasStub (stubs : StubDirectory) (fs : FileSystem) (name : String)
    (names : List FileName) : Prop :=
  fs.HasFileBelow stubs.directory names ∧
    (Path.ofNames names).text = name ++ "." ++ stubs.extension

/-- Generation takes the stub of that name from the directory, or fails because it is no text,
whether or not there is a built-in one behind it. -/
def StubDirectory.Uses (stubs : StubDirectory) (fs : FileSystem) (name : String) : Prop :=
  ∃ content, fs.readFile (stubs.file name) = .ok content ∧
    ∀ fallback, (StubSource.layered stubs fallback).load fs name =
      match String.fromUTF8? content with
      | some text => .ok text
      | none => .error ⟨name, .access .notText⟩

namespace Stubs

/-- The marks are on the stubs that generation takes from the directory. Listed besides is all that
the directory has under other names, each once and in the order of bytes. -/
structure Survey.Truthful (s : Survey) (stubs : StubDirectory) (fs : FileSystem) : Prop where
  named : s.stubs.map (·.1) = stubNames
  marked : ∀ name mark, (name, mark) ∈ s.stubs →
    (mark = true ↔ fs.isFile (stubs.file name) = true)
  used : ∀ name mark, (name, mark) ∈ s.stubs → (mark = true ↔ stubs.Uses fs name)
  others : ∀ name, name ∈ s.others ↔
    name ∉ stubNames ∧ ∃ names, stubs.HasStub fs name names
  ordered : s.others.Pairwise fun a b => Text.bytes a < Text.bytes b
  customised : s.customised = s.stubs.countP fun stub => stub.2
  builtin : s.builtin = s.stubs.countP fun stub => !stub.2
  all : s.customised + s.builtin = 5

/-! ## Names of stubs -/

section Names

variable {s t ending : String}

theorem notMem_withSlashes (s : String) : '\\' ∉ (withSlashes s).toList := by
  unfold withSlashes
  rw [String.toList_ofList]
  intro hmem
  obtain ⟨c, -, hc⟩ := List.mem_map.1 hmem
  split at hc
  · exact absurd hc (by decide)
  · contradiction

theorem map_slashes {cs : List Char} (h : '\\' ∉ cs) :
    (cs.map fun c => if c = '\\' then '/' else c) = cs := by
  have hsame : ∀ c ∈ cs, (if c = '\\' then '/' else c) = c := by
    intro c hc
    rw [if_neg]
    rintro rfl
    exact h hc
  rw [List.map_congr_left hsame, List.map_id']

theorem withSlashes_of_notMem (h : '\\' ∉ s.toList) : withSlashes s = s := by
  rw [withSlashes, map_slashes h, String.ofList_toList]

/-- An ending without slashes was there before backslashes became slashes. -/
theorem withSlashes_eq_append (h : '/' ∉ ending.toList) :
    withSlashes s = t ++ ending ↔
      '\\' ∉ ending.toList ∧ ∃ u, s = u ++ ending ∧ withSlashes u = t := by
  constructor
  · intro hs
    have hchars := congrArg String.toList hs
    rw [withSlashes, String.toList_ofList, String.toList_append] at hchars
    obtain ⟨as, bs, hsplit, has, hbs⟩ := List.map_eq_append_iff.1 hchars
    have hnone : '\\' ∉ bs := fun hmem => h (hbs ▸ List.mem_map.2 ⟨_, hmem, rfl⟩)
    rw [map_slashes hnone] at hbs
    refine ⟨hbs ▸ hnone, String.ofList as, ?_, ?_⟩
    · rw [← String.toList_inj]
      simp [hsplit, hbs]
    · rw [withSlashes, String.toList_ofList, has, String.ofList_toList]
  · rintro ⟨hnone, u, rfl, rfl⟩
    rw [← String.toList_inj]
    simp [withSlashes, map_slashes hnone]

theorem dropEnding?_eq_some : dropEnding? ending s = some t ↔ s = t ++ ending := by
  unfold dropEnding?
  split
  · rename_i hsuffix
    obtain ⟨front, hfront⟩ := List.isSuffixOf_iff_suffix.1 hsuffix
    obtain rfl : s = String.ofList front ++ ending := by
      rw [← String.toList_inj]
      simp [hfront]
    simp [← String.toList_inj, ← String.length_toList]
  · rename_i hsuffix
    simp only [reduceCtorEq, false_iff]
    rintro rfl
    exact hsuffix (List.isSuffixOf_iff_suffix.2 ⟨t.toList, String.toList_append.symm⟩)

end Names

section Found

variable {stubs : StubDirectory} {fs fs' : FileSystem} {name : String}

/-- A name is found if it is that of a stub but for backslashes, and the extension has none. -/
theorem mem_namesIn (h : '/' ∉ stubs.extension.toList) :
    name ∈ namesIn stubs fs ↔ '\\' ∉ stubs.extension.toList ∧
      ∃ real names, stubs.HasStub fs real names ∧ withSlashes real = name := by
  have hending : '/' ∉ ("." ++ stubs.extension).toList := by simpa using h
  simp only [namesIn, List.mem_filterMap, mem_filesBelow, dropEnding?_eq_some,
    withSlashes_eq_append hending, StubDirectory.HasStub, String.append_assoc]
  constructor
  · rintro ⟨path, ⟨names, hfile, rfl⟩, hnone, real, htext, hreal⟩
    exact ⟨by simpa using hnone, real, names, ⟨hfile, htext⟩, hreal⟩
  · rintro ⟨hnone, real, names, ⟨hfile, htext⟩, hreal⟩
    exact ⟨_, ⟨names, hfile, rfl⟩, by simpa using hnone, real, htext, hreal⟩

end Found

/-! ## Marks and other stubs -/

section Survey

variable {stubs : StubDirectory} {fs fs' : FileSystem} {name : String} {mark : Bool}

theorem mem_stubs_survey :
    (name, mark) ∈ (survey stubs fs).stubs ↔
      name ∈ stubNames ∧ (mark = true ↔ name ∈ namesIn stubs fs) := by
  simp only [survey, List.mem_map, Prod.mk.injEq]
  constructor
  · rintro ⟨other, hmem, rfl, rfl⟩
    exact ⟨hmem, List.contains_iff_mem⟩
  · rintro ⟨hmem, hmark⟩
    exact ⟨name, hmem, rfl, Bool.eq_iff_iff.2 (List.contains_iff_mem.trans hmark.symm)⟩

theorem mem_others_survey :
    name ∈ (survey stubs fs).others ↔ name ∉ stubNames ∧ name ∈ namesIn stubs fs := by
  simp [survey, List.mem_mergeSort, and_comm]

theorem sorted_others_survey (stubs : StubDirectory) (fs : FileSystem) :
    (survey stubs fs).others.Pairwise fun a b => decide (a ≤ b) = true :=
  List.pairwise_mergeSort (by simpa using fun a b c => le_trans) (by simpa using le_total) _

/-- Names that are found once are listed once, each in front of those that come behind it. -/
theorem ordered_others_survey (h : (namesIn stubs fs).Nodup) :
    (survey stubs fs).others.Pairwise fun a b => Text.bytes a < Text.bytes b := by
  have hdistinct : (survey stubs fs).others.Nodup :=
    (List.mergeSort_perm _ _).nodup_iff.2 (h.filter _)
  refine ((sorted_others_survey stubs fs).and hdistinct).imp fun ⟨hle, hne⟩ => Text.bytes_lt ?_
  exact lt_of_le_of_ne (of_decide_eq_true hle) hne

theorem counts_survey (stubs : StubDirectory) (fs : FileSystem) :
    ((survey stubs fs).customised = (survey stubs fs).stubs.countP fun stub => stub.2) ∧
      ((survey stubs fs).builtin = (survey stubs fs).stubs.countP fun stub => !stub.2) ∧
      (survey stubs fs).customised + (survey stubs fs).builtin = 5 := by
  have hlength : (survey stubs fs).stubs.length = 5 := by simp [survey, stubNames, ArtifactKind.all]
  have hmarked : (survey stubs fs).customised =
      (survey stubs fs).stubs.countP fun stub => stub.2 := by
    rw [Survey.customised, List.countP_eq_length_filter]
  have hall := List.length_eq_countP_add_countP (l := (survey stubs fs).stubs) fun stub => stub.2
  refine ⟨hmarked, ?_, ?_⟩
  · rw [Survey.builtin, hmarked, hall]
    simp
  · rw [Survey.builtin]
    omega

/-- The order in which files are found is not seen. -/
theorem survey_of_sameTree (h : SameTree fs fs') : survey stubs fs' = survey stubs fs := by
  have hperm : (namesIn stubs fs').Perm (namesIn stubs fs) := (h.perm_filesBelow _).filterMap _
  have hmarks (name : String) :
      (namesIn stubs fs').contains name = (namesIn stubs fs).contains name := by
    rw [Bool.eq_iff_iff, List.contains_iff_mem, List.contains_iff_mem, hperm.mem_iff]
  have hothers : (survey stubs fs').others = (survey stubs fs).others := by
    refine List.Perm.eq_of_pairwise (fun a b _ _ hab hba => ?_) (sorted_others_survey stubs fs')
      (sorted_others_survey stubs fs) ?_
    · exact le_antisymm (of_decide_eq_true hab) (of_decide_eq_true hba)
    · exact ((List.mergeSort_perm _ _).trans (hperm.filter _)).trans (List.mergeSort_perm _ _).symm
  unfold survey at hothers ⊢
  simp only [hmarks] at hothers ⊢
  rw [Survey.mk.injEq]
  exact ⟨rfl, hothers⟩

end Survey

end Stubs

/-! ## Truth -/

namespace StubDirectory

/-- The list can be read as it is meant: the paths of stubs have no backslashes. And a directory
with an empty path, below which nothing is found, is not one that generation takes stubs from. -/
structure Legible (stubs : StubDirectory) (fs : FileSystem) : Prop where
  noBackslash : ∀ name names, stubs.HasStub fs name names →
    '\\' ∉ (Path.ofNames names).text.toList
  notEmpty : stubs.directory.text = "" →
    ∀ name ∈ stubNames, fs.isFile (stubs.file name) = false

/-- The paths of the stubs for generation are short enough to be followed. -/
def InReach (stubs : StubDirectory) (fs : FileSystem) : Prop :=
  ∀ name ∈ stubNames, ∀ names, stubs.HasStub fs name names →
    (stubs.file name).text.utf8ByteSize < pathSizeLimit

variable {stubs : StubDirectory} {fs : FileSystem} {name : String}

/-- Generation takes what is a file where the path of the stub leads. -/
theorem isFile_iff_uses : fs.isFile (stubs.file name) = true ↔ stubs.Uses fs name := by
  rw [isFile_eq_true]
  refine exists_congr fun content => ⟨fun hread => ⟨hread, fun fallback => ?_⟩, And.left⟩
  cases hdecoded : String.fromUTF8? content with
  | some text => exact load_layered_of_readText (by simp only [readText, hread, hdecoded])
  | none =>
    have hfault : fs.readText (stubs.file name) = .error .notText := by
      simp only [readText, hread, hdecoded]
    unfold StubSource.load StubSource.loadFrom
    simp only [hfault]

/-- The path of a stub for generation leads to it. -/
theorem isFile_iff_hasStub (hstorable : fs.Storable) (hreach : stubs.InReach fs)
    (hinside : '/' ∉ stubs.extension.toList) (hdirectory : stubs.directory.text ≠ "")
    (hname : name ∈ stubNames) :
    fs.isFile (stubs.file name) = true ↔ ∃ names, stubs.HasStub fs name names := by
  have hshort := hreach name hname
  obtain ⟨kind, -, rfl⟩ := List.mem_map.1 hname
  have hempty : Path.Descends ⟨""⟩ := by decide
  have hproper : StubDirectory.Proper ⟨⟨""⟩, stubs.extension⟩ := ⟨hempty, hinside⟩
  have hne := hproper.place_ne_nil kind
  have hpath := hproper.path_eq kind
  have hfile : stubs.file kind.stubName =
      stubs.directory.join (.ofNames (hproper.place kind)) := congrArg stubs.directory.join hpath
  rw [hfile] at hshort ⊢
  rw [isFile_join_ofNames hstorable hne hdirectory]
  constructor
  · rintro ⟨hbelow, -⟩
    exact ⟨_, hbelow, congrArg Path.text hpath.symm⟩
  · rintro ⟨names, hstub⟩
    obtain rfl : names = hproper.place kind :=
      ofNames_inj hstub.1.1 hne (hpath ▸ congrArg Path.mk hstub.2)
    exact ⟨hstub.1, hshort _ hstub⟩

/-- Nothing is found below the empty path. -/
theorem not_hasStub_of_empty (hdirectory : stubs.directory.text = "") (names : List FileName) :
    ¬stubs.HasStub fs name names := by
  rintro ⟨⟨-, l, -, hlocate, -⟩, -⟩
  exact (pathFault?_eq_none.1 (locate_eq_ok.1 hlocate).1).2.1 hdirectory

/-- Without backslashes the names that are found are those of the stubs. -/
theorem mem_namesIn_iff_hasStub (hinside : '/' ∉ stubs.extension.toList)
    (hlegible : stubs.Legible fs) :
    name ∈ Stubs.namesIn stubs fs ↔ ∃ names, stubs.HasStub fs name names := by
  rw [Stubs.mem_namesIn hinside]
  have hparts {real : String} {names : List FileName} (hstub : stubs.HasStub fs real names) :
      '\\' ∉ real.toList ∧ '\\' ∉ stubs.extension.toList := by
    have hnone := hlegible.noBackslash real names hstub
    rw [hstub.2] at hnone
    simpa [not_or] using hnone
  constructor
  · rintro ⟨-, real, names, hstub, hreal⟩
    rw [Stubs.withSlashes_of_notMem (hparts hstub).1] at hreal
    exact ⟨names, hreal ▸ hstub⟩
  · rintro ⟨names, hstub⟩
    exact ⟨(hparts hstub).2, name, names, hstub, Stubs.withSlashes_of_notMem (hparts hstub).1⟩

/-- Without backslashes each name is found once. -/
theorem nodup_namesIn (hinside : '/' ∉ stubs.extension.toList) (hlegible : stubs.Legible fs) :
    (Stubs.namesIn stubs fs).Nodup := by
  have hending : '/' ∉ ("." ++ stubs.extension).toList := by simpa using hinside
  -- what is found of a path gives the path back
  have hback {path : Path} (hpath : path ∈ fs.filesBelow stubs.directory) {found : String}
      (hfound : Stubs.dropEnding? ("." ++ stubs.extension) (Stubs.withSlashes path.text) =
        some found) : path = ⟨found ++ ("." ++ stubs.extension)⟩ := by
    obtain ⟨names, hbelow, rfl⟩ := mem_filesBelow.1 hpath
    have hends := Stubs.dropEnding?_eq_some.1 hfound
    obtain ⟨-, real, htext, -⟩ := (Stubs.withSlashes_eq_append hending).1 hends
    have hstub : stubs.HasStub fs real names := ⟨hbelow, by rw [htext, String.append_assoc]⟩
    rw [Stubs.withSlashes_of_notMem (hlegible.noBackslash real names hstub)] at hends
    exact congrArg Path.mk hends
  refine List.pairwise_filterMap.2 ((nodup_filesBelow fs _).imp_of_mem ?_)
  rintro path other hpath hother hne found hfound again hagain rfl
  exact hne ((hback hpath hfound).trans (hback hother hagain).symm)

/-- In a list that is the truth, a stub is found under its own name. -/
theorem mem_namesIn_of_truthful (hstorable : fs.Storable) (hreach : stubs.InReach fs)
    (hinside : '/' ∉ stubs.extension.toList)
    (htrue : (Stubs.survey stubs fs).Truthful stubs fs) {names : List FileName}
    (hstub : stubs.HasStub fs name names) : name ∈ Stubs.namesIn stubs fs := by
  by_cases hname : name ∈ stubNames
  · have hdirectory : stubs.directory.text ≠ "" := fun hempty =>
      not_hasStub_of_empty hempty names hstub
    have hfile := (isFile_iff_hasStub hstorable hreach hinside hdirectory hname).2 ⟨names, hstub⟩
    exact List.contains_iff_mem.1
      ((htrue.marked name _ (Stubs.mem_stubs_survey.2 ⟨hname, List.contains_iff_mem⟩)).2 hfile)
  · exact (Stubs.mem_others_survey.1 ((htrue.others name).2 ⟨hname, names, hstub⟩)).2

theorem legible_of_truthful (hstorable : fs.Storable) (hreach : stubs.InReach fs)
    (hinside : '/' ∉ stubs.extension.toList)
    (htrue : (Stubs.survey stubs fs).Truthful stubs fs) : stubs.Legible fs where
  noBackslash := by
    intro name names hstub
    have hfound := mem_namesIn_of_truthful hstorable hreach hinside htrue hstub
    -- nothing that is found has a backslash
    obtain ⟨hextension, real, -, -, rfl⟩ := (Stubs.mem_namesIn hinside).1 hfound
    rw [hstub.2]
    simpa [hextension] using Stubs.notMem_withSlashes real
  notEmpty := by
    intro hempty name hname
    refine Bool.eq_false_iff.2 fun hfile => ?_
    have hmark := (htrue.marked name _
      (Stubs.mem_stubs_survey.2 ⟨hname, List.contains_iff_mem⟩)).2 hfile
    obtain ⟨-, real, names, hstub, -⟩ :=
      (Stubs.mem_namesIn hinside).1 (List.contains_iff_mem.1 hmark)
    exact not_hasStub_of_empty hempty names hstub

theorem truthful_of_legible (hstorable : fs.Storable) (hreach : stubs.InReach fs)
    (hinside : '/' ∉ stubs.extension.toList) (hlegible : stubs.Legible fs) :
    (Stubs.survey stubs fs).Truthful stubs fs := by
  have hmarked (name : String) (mark : Bool)
      (hmem : (name, mark) ∈ (Stubs.survey stubs fs).stubs) :
      mark = true ↔ fs.isFile (stubs.file name) = true := by
    obtain ⟨hname, hmark⟩ := Stubs.mem_stubs_survey.1 hmem
    rw [hmark, mem_namesIn_iff_hasStub hinside hlegible]
    by_cases hempty : stubs.directory.text = ""
    · have hnone : ¬∃ names, stubs.HasStub fs name names := fun ⟨names, hstub⟩ =>
        not_hasStub_of_empty hempty names hstub
      simp [hnone, hlegible.notEmpty hempty name hname]
    · rw [isFile_iff_hasStub hstorable hreach hinside hempty hname]
  obtain ⟨hcustomised, hbuiltin, hall⟩ := Stubs.counts_survey stubs fs
  exact {
    named := by simp [Stubs.survey, Function.comp_def]
    marked := hmarked
    used := fun name mark hmem => (hmarked name mark hmem).trans isFile_iff_uses
    others := fun name => by rw [Stubs.mem_others_survey, mem_namesIn_iff_hasStub hinside hlegible]
    ordered := Stubs.ordered_others_survey (nodup_namesIn hinside hlegible)
    customised := hcustomised
    builtin := hbuiltin
    all := hall }

/-- The list of stubs is the truth exactly if it can be read as it is meant. Whatever it is, it does
not depend on the order in which the files are found. -/
theorem truthful_survey (hstorable : fs.Storable) (hreach : stubs.InReach fs)
    (hinside : '/' ∉ stubs.extension.toList) :
    ((Stubs.survey stubs fs).Truthful stubs fs ↔ stubs.Legible fs) ∧
      ∀ fs', SameTree fs fs' → Stubs.survey stubs fs' = Stubs.survey stubs fs :=
  ⟨⟨legible_of_truthful hstorable hreach hinside, truthful_of_legible hstorable hreach hinside⟩,
    fun _ => Stubs.survey_of_sameTree⟩

/-- Paths of all files below the directory are looked at. -/
theorem legible_of_filesBelow (hdirectory : stubs.directory.text ≠ "")
    (h : ∀ path ∈ fs.filesBelow stubs.directory, '\\' ∉ path.text.toList) :
    stubs.Legible fs :=
  ⟨fun _ names hstub => h _ (mem_filesBelow.2 ⟨names, hstub.1, rfl⟩),
    fun hempty => absurd hempty hdirectory⟩

end StubDirectory

namespace Customised

/-- A project with two stubs of its own, of which one is no text, and with other files. -/
def listed : FileSystem :=
  ["resources/stubs/old/Model.stub", "resources/stubs/Model.stub", "resources/stubs/notes.txt",
    "resources/stubs/.stub"].foldl (fun fs path => (fs.storeText ⟨path⟩ "text").2)
    (FileSystem.empty.storeWith ⟨"resources/stubs/views/edit.stub"⟩ fun fs =>
      fs.writeFile ⟨"resources/stubs/views/edit.stub"⟩ ⟨#[0xFF]⟩).2

end Customised

theorem truthful_survey_listed :
    Customised.listed.Storable ∧ Customised.stubs.InReach Customised.listed ∧
      '/' ∉ Customised.stubs.extension.toList ∧
      (Stubs.survey Customised.stubs Customised.listed).Truthful Customised.stubs
        Customised.listed ∧
      (Stubs.survey Customised.stubs Customised.listed).stubs = [("Model", true),
        ("Controller", false), ("views/index", false), ("views/create", false),
        ("views/edit", true)] := by
  have hstorable : Customised.listed.Storable := by decide +kernel
  have hinside : '/' ∉ Customised.stubs.extension.toList := by decide
  have hsizes : ∀ name ∈ stubNames,
      (Customised.stubs.file name).text.utf8ByteSize < pathSizeLimit := by decide +kernel
  have hreach : Customised.stubs.InReach Customised.listed := fun name hname _ _ =>
    hsizes name hname
  have hlegible : Customised.stubs.Legible Customised.listed :=
    StubDirectory.legible_of_filesBelow (by decide) (by decide +kernel)
  have htrue := (StubDirectory.truthful_survey hstorable hreach hinside).1.2 hlegible
  exact ⟨hstorable, hreach, hinside, htrue, by decide +kernel⟩

/-- A project without stubs of its own, but with a file that the list takes for one. -/
def Customised.mistaken : FileSystem :=
  (FileSystem.empty.storeText ⟨"resources/stubs/views\\index.stub"⟩ "text").2

/-- A stub is marked although generation takes the built-in one. -/
theorem not_truthful_survey_mistaken :
    ("views/index", true) ∈ (Stubs.survey Customised.stubs Customised.mistaken).stubs ∧
      Customised.mistaken.isFile (Customised.stubs.file "views/index") = false ∧
      (StubSource.layered Customised.stubs true).load Customised.mistaken "views/index" =
        StubSource.loadBuiltin "views/index" ∧
      ¬(Stubs.survey Customised.stubs Customised.mistaken).Truthful Customised.stubs
        Customised.mistaken := by
  have hmark : ("views/index", true) ∈
      (Stubs.survey Customised.stubs Customised.mistaken).stubs := by decide +kernel
  have hfile : Customised.mistaken.isFile (Customised.stubs.file "views/index") = false := by
    decide +kernel
  have hread : Customised.mistaken.readText (Customised.stubs.file "views/index") =
      .error .missing := by decide +kernel
  refine ⟨hmark, hfile, load_layered_of_missing hread, fun htrue => ?_⟩
  rw [(htrue.marked _ _ hmark).1 rfl] at hfile
  simp at hfile

end CrudForge
