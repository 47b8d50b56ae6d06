import CrudForge.FileSystem.Store
import CrudForge.Proofs.FileSystem.Walk
import CrudForge.Proofs.Settings.Members
import CrudForge.Proofs.Text.Cut

/-!
# Layers of settings

Settings come from the environment, from the file that the user names, from the file of the project,
and else from the standard settings. For each setting the first of these counts that sets it. The
settings are loaded if all values that count are of the right type; what else the sources hold does
not matter.

## Main definitions

* `Layers` — what each source says; `Layers.value?` is the value that counts.
* `Situation` — all that settings are loaded from.
* `Situation.Gives` — the layers of a situation.
* `Situation.Settles` — the settings are those of the layers.
-/

namespace CrudForge.Settings

/-! ## The environment -/

section Environment

variable {env : Environment}

theorem isTable_overlay {high low : Value} (hhigh : high.isTable = true)
    (hlow : low.isTable = true) : (high.overlay low).isTable = true := by
  cases high with
  | table high =>
    cases low with
    | table low => simp [Value.overlay, Value.isTable]
    | _ => cases hlow
  | _ => cases hhigh

theorem isTable_nest {keys : List String} (h : keys ≠ []) (v : Value) :
    (Value.nest keys v).isTable = true := by
  cases keys with
  | nil => exact absurd rfl h
  | cons key keys => rfl

theorem ne_nil_of_place? {name : String} {keys : List String}
    (h : Environment.place? name = some keys) : keys ≠ [] := by
  unfold Environment.place? at h
  simp only at h
  split at h
  · split at h
    · exact nomatch h
    · exact Option.some.inj h ▸ Text.cut_ne_nil '.' _
  · exact nomatch h

/-- The variables make a table. -/
theorem isTable_settings (env : Environment) : env.settings.isTable = true := by
  unfold Environment.settings
  refine List.foldlRecOn (motive := fun table : Value => table.isTable = true) env.pairs _ rfl
    fun table htable pair _ => ?_
  cases hplace : Environment.place? pair.1 with
  | none => simpa [hplace] using htable
  | some keys =>
    simpa [hplace] using isTable_overlay (isTable_nest (ne_nil_of_place? hplace) _) htable

/-- Other variables set nothing. -/
theorem settings_of_place? (h : ∀ pair ∈ env.pairs, Environment.place? pair.1 = none) :
    env.settings = .table [] := by
  obtain ⟨pairs⟩ := env
  unfold Environment.settings
  induction pairs with
  | nil => rfl
  | cons pair pairs ih =>
    obtain ⟨hpair, hpairs⟩ := List.forall_mem_cons.1 h
    simpa [hpair] using ih hpairs

end Environment

/-! ## Sources without members -/

theorem stack_cons (s : Section) (origin : Origin) (sources : Stack) :
    s.stack (⟨origin, .table []⟩ :: sources) = s.stack sources := by
  rw [Section.stack, Section.stack, Stack.member, Stack.member, List.takeWhile_cons_of_pos rfl,
    List.filterMap_cons_none rfl]

/-- A source that sets nothing does not matter. -/
theorem ofStack_cons (origin : Origin) (sources : Stack) :
    ofStack (⟨origin, .table []⟩ :: sources) = ofStack sources := by
  have hfind : ∀ s : Section, s.find? (⟨origin, .table []⟩ :: sources) = s.find? sources := by
    intro s
    funext name
    simp only [Section.find?, stack_cons]
  have hmember : ∀ s : Section,
      s.memberMismatch? (⟨origin, .table []⟩ :: sources) = s.memberMismatch? sources := by
    intro s
    funext name
    simp only [Section.memberMismatch?, hfind]
  have hsection : ∀ s : Section,
      s.mismatches (⟨origin, .table []⟩ :: sources) = s.mismatches sources := by
    intro s
    unfold Section.mismatches Section.ownMismatch? Section.readingOrder Section.isListed
    rw [stack_cons, hmember]
  have hpick : pick (⟨origin, .table []⟩ :: sources) = pick sources :=
    pick_congr fun s name _ => by simp only [Section.value?, hfind]
  simp only [ofStack, mismatches, hsection, hpick]

/-! ## Files -/

/-- What is in a file of settings: there is no such file, or it is a document. -/
inductive FileGives (fs : FileSystem) (p : Path) : Option Value → Prop
  | missing (h : fs.exists? p = false) : FileGives fs p none
  | document {text : String} {v : Value} (hread : fs.readText p = .ok text)
      (hparse : Toml.parse? text = some v) : FileGives fs p (some v)

section Files

variable {fs : FileSystem} {p : Path} {found : Option Value}

theorem isTable_of_parse? {text : String} {v : Value} (h : Toml.parse? text = some v) :
    v.isTable = true := by
  unfold Toml.parse? at h
  split at h
  split at h
  · rw [Toml.value?, Option.map_eq_some_iff] at h
    obtain ⟨tree, -, rfl⟩ := h
    simp [Toml.Tree.toValue, Toml.Node.toValue, Value.isTable]
  · cases h

theorem FileGives.isTable (h : FileGives fs p found) {v : Value} (hv : v ∈ found) :
    v.isTable = true := by
  cases h with
  | missing h => cases hv
  | document hread hparse =>
    cases hv
    exact isTable_of_parse? hparse

theorem exists_file_of_readText {text : String} (h : fs.readText p = .ok text) :
    ∃ content, fs.find p = .ok (.file content) := by
  obtain ⟨l, hlocate, hfile⟩ := FileSystem.readFile_eq_ok.1 (FileSystem.readText_eq_ok.1 h)
  exact ⟨_, FileSystem.find_eq_ok.2 ⟨l, hlocate, FileSystem.fileAt_eq_some_iff.1 hfile⟩⟩

theorem FileGives.readSource_eq (h : FileGives fs p found) :
    readSource fs p = .ok (found.map (⟨.file (shownPath fs p), ·⟩)) := by
  cases h with
  | missing h =>
    have hfile : fs.isFile p = false := by
      unfold FileSystem.exists? at h
      unfold FileSystem.isFile
      cases hfind : fs.find p with
      | error e => rfl
      | ok entry => simp [hfind] at h
    simp [readSource, hfile]
  | document hread hparse =>
    obtain ⟨content, hfind⟩ := exists_file_of_readText hread
    simp [readSource, FileSystem.isFile, hfind, hread, hparse]

theorem FileGives.of_isSome {text : String} (hread : fs.readText p = .ok text)
    (hparse : (Toml.parse? text).isSome = true) : FileGives fs p (Toml.parse? text) := by
  obtain ⟨v, hv⟩ := Option.isSome_iff_exists.1 hparse
  rw [hv]
  exact .document hread hv

/-- A document is there. -/
theorem FileGives.exists?_eq {v : Value} (h : FileGives fs p (some v)) : fs.exists? p = true := by
  cases h with
  | document hread hparse =>
    obtain ⟨content, hfind⟩ := exists_file_of_readText hread
    simp [FileSystem.exists?, hfind]

end Files

/-! ## Layers -/

/-- What each source says, if it is there. -/
structure Layers where
  environment : Value
  named : Option Value
  project : Option Value

namespace Layers

/-- The sources by their rank. -/
def values (l : Layers) : List Value :=
  l.environment :: (l.named.toList ++ l.project.toList)

/-- The value that counts: the environment is asked first, then the named file, then the file of the
project, and last the standard settings. -/
def value? (l : Layers) (s : Section) (name : String) : Option Value :=
  (l.environment.setting? s name).or <| (l.named.bind (·.setting? s name)).or <|
    (l.project.bind (·.setting? s name)).or (standard.toValue.setting? s name)

/-- The value that counts is of the right type. -/
def Admits (l : Layers) (s : Section) (name : String) : Prop :=
  ∃ v, l.value? s name = some v ∧ s.memberExpectation.admits v = true

instance (l : Layers) (s : Section) (name : String) : Decidable (l.Admits s name) :=
  decidable_of_iff ((l.value? s name).any s.memberExpectation.admits = true)
    (Option.any_eq_true _ _)

/-- Two layers have the same in each source. -/
def AgreeAt (l other : Layers) (s : Section) (name : String) : Prop :=
  l.environment.setting? s name = other.environment.setting? s name ∧
  l.named.bind (·.setting? s name) = other.named.bind (·.setting? s name) ∧
  l.project.bind (·.setting? s name) = other.project.bind (·.setting? s name)

/-- Two layers have the same in each source for all settings but one. -/
def AgreeApartFrom (l other : Layers) (s : Section) (name : String) : Prop :=
  ∀ s', ∀ name' ∈ Section.members s', (s', name') ≠ (s, name) → l.AgreeAt other s' name'

variable {l other : Layers} {s : Section} {name : String}

theorem AgreeAt.value?_eq (h : l.AgreeAt other s name) : l.value? s name = other.value? s name := by
  obtain ⟨henvironment, hnamed, hproject⟩ := h
  simp only [value?, henvironment, hnamed, hproject]

theorem value?_eq_findSome? (l : Layers) (s : Section) (name : String) :
    l.value? s name =
      (l.values.findSome? (·.setting? s name)).or (standard.toValue.setting? s name) := by
  have htoList : ∀ source : Option Value,
      source.toList.findSome? (·.setting? s name) = source.bind (·.setting? s name) := by
    intro source
    cases source <;> simp
  rw [value?, values, List.findSome?_cons, List.findSome?_append, htoList, htoList]
  cases l.environment.setting? s name with
  | none => simp [Option.or_assoc]
  | some v => rfl

end Layers

/-- Two settings are the same in all their members but one. -/
def AgreeApartFrom (settings other : Settings) (s : Section) (name : String) : Prop :=
  ∀ s', ∀ name' ∈ Section.members s', (s', name') ≠ (s, name) →
    settings.toValue.setting? s' name' = other.toValue.setting? s' name'

/-! ## Situations -/

/-- What settings are loaded from. -/
structure Situation where
  fs : FileSystem
  env : Environment
  root : Path
  named : Option Path

namespace Situation

/-- The settings from all sources. -/
def load (w : Situation) : Except SettingsError Settings :=
  Settings.load w.fs w.env w.root w.named

/-- The layers are what the environment and the files say, and all their sections are tables. A file
is in a layer if it is there, and one that the user names is. -/
structure Gives (w : Situation) (l : Layers) : Prop where
  environment : l.environment = w.env.settings
  named : match w.named with
    | none => l.named = none
    | some path => l.named.isSome = true ∧ FileGives w.fs path l.named
  project : FileGives w.fs (projectFile w.root) l.project
  sectioned : ∀ v ∈ l.values, v.IsSectioned

/-- Settings are loaded if and only if the value that counts is of the right type for every setting,
and then these are the settings. -/
structure Settles (w : Situation) (l : Layers) : Prop where
  loads_iff : (∃ settings, w.load = .ok settings) ↔ ∀ s, ∀ name ∈ Section.members s, l.Admits s name
  setting_eq : ∀ settings, w.load = .ok settings →
    ∀ s, ∀ name ∈ Section.members s, settings.toValue.setting? s name = l.value? s name

variable {w : Situation} {l : Layers}

/-- Settings come from a stack of the layers. -/
theorem Gives.exists_stack (h : w.Gives l) :
    ∃ sources : Stack, sources.map (·.value) = l.values ∧
      ∀ settings, w.load = .ok settings ↔ ofStack sources = .ok settings := by
  obtain ⟨fs, env, root, named⟩ := w
  obtain ⟨environment, namedValue, project⟩ := l
  obtain ⟨rfl, hnamed, hproject, -⟩ := h
  have hresolve : ∀ (above stack : Stack) (settings : Settings),
      resolve above (.ok stack) = .ok settings ↔ ofStack (above ++ stack) = .ok settings := by
    intro above stack settings
    unfold resolve
    cases hstack : ofStack (above ++ stack) <;> simp [hstack]
  cases named with
  | none =>
    obtain rfl : namedValue = none := hnamed
    refine ⟨⟨.environment, env.settings⟩ ::
      (project.map (⟨.file (shownPath fs (projectFile root)), ·⟩)).toList, ?_, fun settings => ?_⟩
    · cases project <;> rfl
    · rw [load, Settings.load, readSources, hproject.readSource_eq]
      exact hresolve _ _ _
  | some path =>
    obtain ⟨hsome, hpath⟩ := hnamed
    obtain ⟨v, rfl⟩ := Option.isSome_iff_exists.1 hsome
    refine ⟨⟨.environment, env.settings⟩ :: ⟨.file (shownPath fs path), v⟩ ::
      (project.map (⟨.file (shownPath fs (projectFile root)), ·⟩)).toList, ?_, fun settings => ?_⟩
    · cases project <;> rfl
    · simp only [load, Settings.load, hpath.exists?_eq, if_true, readSources,
        hproject.readSource_eq, hpath.readSource_eq]
      exact hresolve _ _ _

theorem Gives.isTable (h : w.Gives l) : ∀ v ∈ l.values, v.isTable = true := by
  have hnamed : ∀ v ∈ l.named, v.isTable = true := by
    intro v hv
    have hgives := h.named
    cases hpath : w.named with
    | none =>
      simp only [hpath] at hgives
      simp [hgives] at hv
    | some path =>
      simp only [hpath] at hgives
      exact hgives.2.isTable hv
  intro v hv
  simp only [Layers.values, List.mem_cons, List.mem_append, Option.mem_toList] at hv
  obtain rfl | hv | hv := hv
  · rw [h.environment]
    exact isTable_settings w.env
  · exact hnamed v hv
  · exact h.project.isTable hv

/-- The settings that are picked, if all values that count are of the right type. -/
theorem Gives.exists_picked (h : w.Gives l) : ∃ picked : Settings,
    (∀ settings, w.load = .ok settings ↔
      (∀ s, ∀ name ∈ Section.members s, l.Admits s name) ∧ settings = picked) ∧
    ((∀ s, ∀ name ∈ Section.members s, l.Admits s name) →
      ∀ s, ∀ name ∈ Section.members s, picked.toValue.setting? s name = l.value? s name) := by
  obtain ⟨sources, hvalues, hload⟩ := h.exists_stack
  have hsectioned : sources.IsSectioned := by
    refine ⟨fun source hsource => h.isTable _ ?_, fun source hsource => h.sectioned _ ?_⟩ <;>
      exact hvalues ▸ List.mem_map_of_mem hsource
  have hvalue : ∀ s name,
      l.value? s name = (Section.value? s sources name).or (standard.toValue.setting? s name) := by
    intro s name
    rw [Layers.value?_eq_findSome?, hsectioned.value?_eq, hvalues]
  have hadmitted : Admitted sources ↔ ∀ s, ∀ name ∈ Section.members s, l.Admits s name := by
    rw [hsectioned.admitted_iff]
    refine forall_congr' fun s => forall₂_congr fun name hname => ?_
    rw [Layers.Admits, hvalue]
    cases s.value? sources name with
    | none =>
      simp only [Option.none_or, reduceCtorEq, false_implies, implies_true, true_iff]
      exact admits_toValue standard hname
    | some v => simp
  refine ⟨pick sources, fun settings => ?_, fun hall s name hname => ?_⟩
  · rw [hload, ofStack_eq_ok, hadmitted]
  · rw [hvalue, setting?_pick hname (hsectioned.admitted_iff.1 (hadmitted.2 hall) s name hname)]

theorem Gives.settles (h : w.Gives l) : w.Settles l := by
  obtain ⟨picked, hload, hpicked⟩ := h.exists_picked
  refine ⟨⟨?_, fun hall => ⟨picked, (hload picked).2 ⟨hall, rfl⟩⟩⟩, fun settings hsettings => ?_⟩
  · rintro ⟨settings, hsettings⟩
    exact ((hload settings).1 hsettings).1
  · obtain ⟨hall, rfl⟩ := (hload settings).1 hsettings
    exact hpicked hall

/-- Where the same values count, the same settings are loaded. -/
theorem Settles.load_eq_ok_of_value?_eq {w' : Situation} {l' : Layers} (h : w.Settles l)
    (h' : w'.Settles l')
    (hsame : ∀ s, ∀ name ∈ Section.members s, l.value? s name = l'.value? s name)
    {settings : Settings} (hload : w.load = .ok settings) : w'.load = .ok settings := by
  have hall : ∀ s, ∀ name ∈ Section.members s, l'.Admits s name := by
    intro s name hname
    rw [Layers.Admits, ← hsame s name hname]
    exact h.loads_iff.1 ⟨settings, hload⟩ s name hname
  obtain ⟨settings', hload'⟩ := h'.loads_iff.2 hall
  have heq : settings = settings' := eq_of_setting? fun s name hname => by
    rw [h.setting_eq _ hload s name hname, hsame s name hname,
      h'.setting_eq _ hload' s name hname]
  rw [heq, hload']

/-- Where one setting is set in another way, the others stay as they are. -/
theorem Settles.apart {w' : Situation} {l' : Layers} (h : w.Settles l) (h' : w'.Settles l')
    {s : Section} {name : String} (hapart : l.AgreeApartFrom l' s name)
    (hname : name ∈ s.members) {settings : Settings} (hload : w.load = .ok settings) :
    ((∃ settings', w'.load = .ok settings') ↔ l'.Admits s name) ∧
      ∀ settings', w'.load = .ok settings' → settings.AgreeApartFrom settings' s name := by
  refine ⟨⟨fun hsome => h'.loads_iff.1 hsome s name hname, fun hadmits => ?_⟩, ?_⟩
  · refine h'.loads_iff.2 fun s' name' hname' => ?_
    by_cases heq : (s', name') = (s, name)
    · obtain ⟨rfl, rfl⟩ := Prod.mk.inj heq
      exact hadmits
    · rw [Layers.Admits, ← (hapart s' name' hname' heq).value?_eq]
      exact h.loads_iff.1 ⟨settings, hload⟩ s' name' hname'
  · intro settings' hload' s' name' hname' hne
    rw [h.setting_eq _ hload s' name' hname', h'.setting_eq _ hload' s' name' hname',
      (hapart s' name' hname' hne).value?_eq]

end Situation

/-! ## Loading -/

/-- Without variables that set something, the environment does not matter. -/
theorem load_of_place? (fs : FileSystem) {env : Environment} (root : Path)
    (h : ∀ pair ∈ env.pairs, Environment.place? pair.1 = none) :
    load fs env root none = loadProject fs root := by
  rw [load, loadProject, settings_of_place? h]
  unfold resolve
  cases readSources fs [projectFile root] with
  | error bad => rfl
  | ok stack => simp only [List.cons_append, List.nil_append, ofStack_cons]

/-- Settings are loaded key by key. Each has the value that counts, and loading fails if and only if
one of these values is of the wrong type. A setting in a source only moves that setting, and what is
hidden or unknown does not matter at all. Loading the settings of a project is loading without named
file and variables. A named file has to be there. -/
theorem load_key_by_key :
    (∀ (w : Situation) (l : Layers), w.Gives l → w.Settles l) ∧
    (∀ (w w' : Situation) (l l' : Layers), w.Gives l → w'.Gives l' →
      (∀ s, ∀ name ∈ Section.members s, l.AgreeApartFrom l' s name →
        ∀ settings, w.load = .ok settings →
          ((∃ settings', w'.load = .ok settings') ↔ l'.Admits s name) ∧
            ∀ settings', w'.load = .ok settings' → settings.AgreeApartFrom settings' s name) ∧
      ((∀ s, ∀ name ∈ Section.members s, l.value? s name = l'.value? s name) →
        ∀ settings, w.load = .ok settings ↔ w'.load = .ok settings)) ∧
    (∀ (fs : FileSystem) (env : Environment) (root : Path),
      (∀ pair ∈ env.pairs, Environment.place? pair.1 = none) →
        loadProject fs root = load fs env root none) ∧
    ∀ (fs : FileSystem) (env : Environment) (root path : Path), fs.exists? path = false →
      load fs env root (some path) = .error (.missingFile path) := by
  refine ⟨fun w l h => h.settles, fun w w' l l' h h' => ⟨?_, fun hsame settings => ⟨?_, ?_⟩⟩,
    fun fs env root h => (load_of_place? fs root h).symm, fun fs env root path h => ?_⟩
  · intro s name hname hapart settings hload
    exact h.settles.apart h'.settles hapart hname hload
  · exact h.settles.load_eq_ok_of_value?_eq h'.settles hsame
  · exact h'.settles.load_eq_ok_of_value?_eq h.settles fun s name hname => (hsame s name hname).symm
  · simp [load, h]

/-! ## A mistake that is hidden -/

namespace Hidden

/-- A file of a project with a text where a truth value is expected, and with an unknown setting. -/
def mistake : String :=
  "[generator]\nstrict_types = \"sometimes\"\ncolour = 1\n"

/-- The file that the user names. -/
def namedText : String :=
  "[paths]\nviews_dir = \"templates\"\n"

def files (project : String) : FileSystem :=
  ((FileSystem.empty.storeText ⟨"crudgen.toml"⟩ project).2.storeText ⟨"other.toml"⟩ namedText).2

def environment (truth : String) : Environment :=
  ⟨[("HOME", "/root"), ("CRUDGEN_GENERATOR__STRICT_TYPES", truth)]⟩

/-- All three sources are there, and the variable hides what the file of the project has for the
same setting. -/
def situation (truth project : String) : Situation :=
  ⟨files project, environment truth, ⟨""⟩, some ⟨"other.toml"⟩⟩

def layers (truth project : String) : Layers :=
  ⟨(environment truth).settings, Toml.parse? namedText, Toml.parse? project⟩

variable {truth project : String}

theorem gives (hnamed : (files project).readText ⟨"other.toml"⟩ = .ok namedText)
    (hproject : (files project).readText (projectFile ⟨""⟩) = .ok project)
    (hparse : (Toml.parse? project).isSome = true)
    (h : ∀ v ∈ (layers truth project).values, v.IsSectioned) :
    (situation truth project).Gives (layers truth project) := by
  have hsome : (Toml.parse? namedText).isSome = true := by decide +kernel
  exact ⟨rfl, ⟨hsome, .of_isSome hnamed hsome⟩, .of_isSome hproject hparse, h⟩

theorem apart :
    (layers "true" mistake).AgreeApartFrom (layers "false" mistake) .behaviour "strict_types" := by
  have hnone : ∀ s ∈ Section.all, ∀ name ∈ Section.members s,
      (s, name) ≠ (.behaviour, "strict_types") → ∀ truth ∈ ["true", "false"],
        ((environment truth).settings.setting? s name).isNone := by
    decide +kernel
  intro s name hname hne
  have htrue := hnone s s.mem_all name hname hne "true" (by simp)
  have hfalse := hnone s s.mem_all name hname hne "false" (by simp)
  rw [Option.isNone_iff_eq_none] at htrue hfalse
  exact ⟨htrue.trans hfalse.symm, rfl, rfl⟩

/-- The file of the project sets nothing that counts. -/
theorem value?_eq (s : Section) {name : String} (hname : name ∈ s.members) :
    (layers "true" mistake).value? s name = (layers "true" "").value? s name := by
  have hhidden : ∀ s ∈ Section.all, ∀ name ∈ Section.members s,
      ((environment "true").settings.setting? s name).isSome ∨
        ∀ project ∈ [mistake, ""], ((Toml.parse? project).bind (·.setting? s name)).isNone := by
    decide +kernel
  obtain hsome | hnone := hhidden s s.mem_all name hname
  · obtain ⟨v, hv⟩ := Option.isSome_iff_exists.1 hsome
    simp [Layers.value?, layers, hv]
  · have hmistake := hnone mistake (by simp)
    have hempty := hnone "" (by simp)
    rw [Option.isNone_iff_eq_none] at hmistake hempty
    simp [Layers.value?, layers, hmistake, hempty]

end Hidden

/-- The mistake does no harm, and the variable only moves its own setting. -/
theorem load_key_by_key_hidden :
    (Hidden.situation "true" Hidden.mistake).Gives (Hidden.layers "true" Hidden.mistake) ∧
    (∃ settings, (Hidden.situation "true" Hidden.mistake).load = .ok settings ∧
      (Hidden.situation "true" "").load = .ok settings ∧
      ∃ settings', (Hidden.situation "false" Hidden.mistake).load = .ok settings' ∧
        settings.AgreeApartFrom settings' .behaviour "strict_types") ∧
    loadProject (Hidden.files "") ⟨""⟩ = load (Hidden.files "") ⟨[("HOME", "/root")]⟩ ⟨""⟩ none ∧
    load (Hidden.files Hidden.mistake) (Hidden.environment "") ⟨""⟩ (some ⟨"gone.toml"⟩) =
      .error (.missingFile ⟨"gone.toml"⟩) := by
  have htrue :
      (Hidden.situation "true" Hidden.mistake).Gives (Hidden.layers "true" Hidden.mistake) :=
    Hidden.gives (by decide +kernel) (by decide +kernel) (by decide +kernel) (by decide +kernel)
  have hfalse :
      (Hidden.situation "false" Hidden.mistake).Gives (Hidden.layers "false" Hidden.mistake) :=
    Hidden.gives (by decide +kernel) (by decide +kernel) (by decide +kernel) (by decide +kernel)
  have hempty : (Hidden.situation "true" "").Gives (Hidden.layers "true" "") :=
    Hidden.gives (by decide +kernel) (by decide +kernel) (by decide +kernel) (by decide +kernel)
  have hadmits : ∀ s ∈ Section.all, ∀ name ∈ Section.members s,
      (Hidden.layers "true" Hidden.mistake).Admits s name := by
    decide +kernel
  obtain ⟨hsettles, hpairs, hproject, hmissing⟩ := load_key_by_key
  obtain ⟨settings, hload⟩ := (hsettles _ _ htrue).loads_iff.2 fun s => hadmits s s.mem_all
  obtain ⟨happly, hapart⟩ := (hpairs _ _ _ _ htrue hfalse).1 .behaviour "strict_types" (by decide)
    Hidden.apart settings hload
  obtain ⟨settings', hload'⟩ := happly.2 (by decide +kernel)
  refine ⟨htrue, ⟨settings, hload, ?_, settings', hload', hapart settings' hload'⟩,
    hproject _ _ _ (by decide +kernel), hmissing _ _ _ _ (by decide +kernel)⟩
  exact ((hpairs _ _ _ _ htrue hempty).2 (fun s name hname => Hidden.value?_eq s hname) settings).1
    hload

end CrudForge.Settings
