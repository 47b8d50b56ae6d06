import CrudForge.Proofs.Path.Steps

/-!
# Where paths lead

Without links a path can only lead to one place, which its steps alone decide: the walk either ends
there or fails. Whether it fails depends on what stands on the way, so a walk that succeeds still
does when entries are added.

## Main definitions

* `Location.follow` — where steps lead if nothing is in the way.
* `FileSystem.target` — where a path leads if it leads anywhere.
* `FileSystem.Extends` — the same entries and more, except that files may differ in content.
* `FileSystem.fileAt` — the file system as a map from locations to the contents of files.
-/

namespace CrudForge

/-- Where the steps lead from `l` if nothing is in the way. -/
def Location.follow : Location → List Step → Location
  | l, [] => l
  | l, .stay :: steps => follow l steps
  | l, .up :: steps => follow l.tail steps
  | l, .down name :: steps => follow (name :: l) steps

namespace Location

@[simp] theorem follow_append (l : Location) (steps rest : List Step) :
    l.follow (steps ++ rest) = (l.follow steps).follow rest := by
  fun_induction follow l steps <;> simp_all [follow]

/-- Names lead downwards, one below the other. -/
theorem follow_down (l : Location) (names : List FileName) :
    l.follow (names.map .down) = names.reverse ++ l := by
  induction names generalizing l with
  | nil => rfl
  | cons name names ih => simp [follow, ih]

end Location

namespace FileSystem

/-- The location to which a path leads, if it leads anywhere. -/
def target (fs : FileSystem) (p : Path) : Location :=
  (fs.origin p).follow p.steps

/-- The content of the file at a location. -/
def fileAt (fs : FileSystem) (l : Location) : Option ByteArray :=
  match fs.entryAt? l with
  | some (.file content) => some content
  | _ => none

theorem fileAt_eq_some_iff {fs : FileSystem} {l : Location} {content : ByteArray} :
    fs.fileAt l = some content ↔ fs.entryAt? l = some (.file content) := by
  unfold fileAt
  split <;> simp_all

theorem fileAt_congr {fs fs' : FileSystem} {l : Location} (h : fs'.entryAt? l = fs.entryAt? l) :
    fs'.fileAt l = fs.fileAt l := by
  simp [fileAt, h]

/-! ## Walking -/

section Walk

variable {fs fs' : FileSystem} {l m : Location} {steps : List Step}

@[simp] theorem walk_nil_eq_ok : fs.walk l [] = .ok m ↔ l = m := by
  simp [walk]

theorem walk_cons (fs : FileSystem) (l : Location) (step : Step) (steps : List Step) :
    fs.walk l (step :: steps) =
      match fs.entryAt? l with
      | none => .error .missing
      | some (.file _) => .error .notDirectory
      | some .directory =>
        match step with
        | .stay => fs.walk l steps
        | .up => fs.walk l.tail steps
        | .down name =>
          if name.isTooLong then .error .nameTooLong
          else if (fs.entryAt? (name :: l)).isNone then .error .missing
          else fs.walk (name :: l) steps := rfl

@[simp] theorem walk_stay_eq_ok :
    fs.walk l (.stay :: steps) = .ok m ↔
      fs.entryAt? l = some .directory ∧ fs.walk l steps = .ok m := by
  rw [walk_cons]
  split <;> simp_all

@[simp] theorem walk_up_eq_ok :
    fs.walk l (.up :: steps) = .ok m ↔
      fs.entryAt? l = some .directory ∧ fs.walk l.tail steps = .ok m := by
  rw [walk_cons]
  split <;> simp_all

@[simp] theorem walk_down_eq_ok {name : FileName} :
    fs.walk l (.down name :: steps) = .ok m ↔
      fs.entryAt? l = some .directory ∧ name.isTooLong = false ∧
        (fs.entryAt? (name :: l)).isSome ∧ fs.walk (name :: l) steps = .ok m := by
  rw [walk_cons]
  by_cases hlong : name.isTooLong = true
  · split <;> simp_all
  · cases hentry : fs.entryAt? (name :: l) with
    | none => split <;> simp_all
    | some e => split <;> simp_all

/-- A walk goes on from where its first steps end. -/
theorem walk_append_of_ok {rest : List Step} (h : fs.walk l steps = .ok m) :
    fs.walk l (steps ++ rest) = fs.walk m rest := by
  induction steps generalizing l with
  | nil => rw [List.nil_append, walk_nil_eq_ok.1 h]
  | cons step steps ih =>
    rw [List.cons_append, walk_cons]
    cases step with
    | stay =>
      obtain ⟨hl, hwalk⟩ := walk_stay_eq_ok.1 h
      simp [hl, ih hwalk]
    | up =>
      obtain ⟨hl, hwalk⟩ := walk_up_eq_ok.1 h
      simp [hl, ih hwalk]
    | down name =>
      obtain ⟨hl, hlong, hname, hwalk⟩ := walk_down_eq_ok.1 h
      simp [hl, hlong, Option.isSome_iff_ne_none.1 hname, ih hwalk]

theorem walk_append_eq_ok {rest : List Step} :
    fs.walk l (steps ++ rest) = .ok m ↔
      ∃ k, fs.walk l steps = .ok k ∧ fs.walk k rest = .ok m := by
  induction steps generalizing l with
  | nil => simp
  | cons step steps ih => cases step <;> simp [ih, and_assoc]

/-- A walk ends where its steps lead. -/
theorem eq_follow_of_walk (h : fs.walk l steps = .ok m) : m = l.follow steps := by
  induction steps generalizing l with
  | nil => exact (walk_nil_eq_ok.1 h).symm
  | cons step steps ih =>
    cases step with
    | stay => exact ih (walk_stay_eq_ok.1 h).2
    | up => exact ih (walk_up_eq_ok.1 h).2
    | down name => exact ih (walk_down_eq_ok.1 h).2.2.2

end Walk

/-! ## Finding -/

section Locate

variable {fs : FileSystem} {p : Path} {l : Location}

/-- A path is followed to its end, which is a directory if a slash stands behind it. -/
theorem locate_eq_ok :
    fs.locate p = .ok l ↔
      pathFault? p = none ∧ fs.walk (fs.origin p) p.steps = .ok l ∧
        (p.endsInSlash = true → fs.entryAt? l = some .directory) := by
  unfold locate
  cases hfault : pathFault? p with
  | some e => simp
  | none =>
    cases hslash : p.endsInSlash with
    | false => simp
    | true =>
      simp only [if_true, walk_append_eq_ok, walk_stay_eq_ok, walk_nil_eq_ok, true_and,
        forall_const]
      constructor
      · rintro ⟨k, hwalk, hdirectory, rfl⟩
        exact ⟨hwalk, hdirectory⟩
      · rintro ⟨hwalk, hdirectory⟩
        exact ⟨l, hwalk, hdirectory, rfl⟩

theorem eq_target_of_locate (h : fs.locate p = .ok l) : l = fs.target p :=
  eq_follow_of_walk (locate_eq_ok.1 h).2.1

theorem find_eq_ok {e : Entry} :
    fs.find p = .ok e ↔ ∃ l, fs.locate p = .ok l ∧ fs.entryAt? l = some e := by
  unfold find
  cases hlocate : fs.locate p with
  | error e' => simp
  | ok m => cases hentry : fs.entryAt? m <;> simp [hentry]

theorem exists?_eq_true :
    fs.exists? p = true ↔ ∃ l, fs.locate p = .ok l ∧ (fs.entryAt? l).isSome := by
  have hfind : fs.exists? p = true ↔ ∃ e, fs.find p = .ok e := by
    unfold exists?
    cases fs.find p <;> simp
  simp only [hfind, find_eq_ok, Option.isSome_iff_exists]
  constructor
  · rintro ⟨e, l, hlocate, hentry⟩
    exact ⟨l, hlocate, e, hentry⟩
  · rintro ⟨l, hlocate, e, hentry⟩
    exact ⟨e, l, hlocate, hentry⟩

theorem isDirectory_eq_true :
    fs.isDirectory p = true ↔ ∃ l, fs.locate p = .ok l ∧ fs.entryAt? l = some .directory := by
  rw [← find_eq_ok]
  unfold isDirectory
  split <;> simp_all

theorem readFile_eq_ok {content : ByteArray} :
    fs.readFile p = .ok content ↔ ∃ l, fs.locate p = .ok l ∧ fs.fileAt l = some content := by
  simp only [fileAt_eq_some_iff, ← find_eq_ok]
  unfold readFile
  split <;> simp_all

/-- A file that can be read as text holds the bytes of the text. -/
theorem readText_eq_ok {text : String} :
    fs.readText p = .ok text ↔ fs.readFile p = .ok text.toUTF8 := by
  unfold readText
  cases fs.readFile p with
  | error e => simp
  | ok content =>
    have hdecode : String.fromUTF8? content = some text ↔ content = text.toUTF8 := by
      unfold String.fromUTF8?
      constructor
      · intro h
        split at h
        · exact congrArg String.toByteArray (Option.some.inj h)
        · simp at h
      · rintro rfl
        exact dif_pos text.isValidUTF8
    cases hcontent : String.fromUTF8? content with
    | none => simpa [hcontent] using hdecode
    | some found => simpa [hcontent] using hdecode

/-- What is read as text is at the target. -/
theorem fileAt_of_readText {text : String} (h : fs.readText p = .ok text) :
    fs.fileAt (fs.target p) = some text.toUTF8 := by
  obtain ⟨l, hlocate, hl⟩ := readFile_eq_ok.1 (readText_eq_ok.1 h)
  rwa [← eq_target_of_locate hlocate]

end Locate

/-! ## Growing -/

/-- What is in `fs` is in `fs'` too, and of the same kind. -/
structure Extends (fs fs' : FileSystem) : Prop where
  workingDirectory : fs'.workingDirectory = fs.workingDirectory
  directory : ∀ {l : Location}, fs.entryAt? l = some .directory → fs'.entryAt? l = some .directory
  file : ∀ {l : Location} {content : ByteArray}, fs.entryAt? l = some (.file content) →
    ∃ content', fs'.entryAt? l = some (.file content')

namespace Extends

variable {fs fs' fs'' : FileSystem}

theorem refl (fs : FileSystem) : Extends fs fs :=
  ⟨rfl, id, fun h => ⟨_, h⟩⟩

theorem trans (h : Extends fs fs') (h' : Extends fs' fs'') : Extends fs fs'' where
  workingDirectory := h'.workingDirectory.trans h.workingDirectory
  directory hl := h'.directory (h.directory hl)
  file hl := by
    obtain ⟨content', hl'⟩ := h.file hl
    exact h'.file hl'

theorem origin (h : Extends fs fs') (p : Path) : fs'.origin p = fs.origin p := by
  simp [FileSystem.origin, h.workingDirectory]

/-- A path keeps its target. -/
theorem target (h : Extends fs fs') (p : Path) : fs'.target p = fs.target p := by
  simp [FileSystem.target, h.origin]

theorem isSome (h : Extends fs fs') {l : Location} (hl : (fs.entryAt? l).isSome) :
    (fs'.entryAt? l).isSome := by
  obtain ⟨e, he⟩ := Option.isSome_iff_exists.1 hl
  cases e with
  | directory => simp [h.directory he]
  | file content =>
    obtain ⟨content', he'⟩ := h.file he
    simp [he']

/-- What the larger file system calls a directory, the smaller one does too if it has it. -/
theorem directory_of_isSome (h : Extends fs fs') {l : Location}
    (hl' : fs'.entryAt? l = some .directory) (hl : (fs.entryAt? l).isSome) :
    fs.entryAt? l = some .directory := by
  obtain ⟨e, he⟩ := Option.isSome_iff_exists.1 hl
  cases e with
  | directory => exact he
  | file content =>
    obtain ⟨content', he'⟩ := h.file he
    simp [he'] at hl'

theorem walk (h : Extends fs fs') {l m : Location} {steps : List Step}
    (hwalk : fs.walk l steps = .ok m) : fs'.walk l steps = .ok m := by
  induction steps generalizing l with
  | nil => simpa using hwalk
  | cons step steps ih =>
    cases step with
    | stay =>
      obtain ⟨hl, hwalk⟩ := walk_stay_eq_ok.1 hwalk
      exact walk_stay_eq_ok.2 ⟨h.directory hl, ih hwalk⟩
    | up =>
      obtain ⟨hl, hwalk⟩ := walk_up_eq_ok.1 hwalk
      exact walk_up_eq_ok.2 ⟨h.directory hl, ih hwalk⟩
    | down name =>
      obtain ⟨hl, hlong, hname, hwalk⟩ := walk_down_eq_ok.1 hwalk
      exact walk_down_eq_ok.2 ⟨h.directory hl, hlong, h.isSome hname, ih hwalk⟩

/-- A path that leads somewhere keeps leading there. -/
theorem locate (h : Extends fs fs') {p : Path} {l : Location} (hl : fs.locate p = .ok l) :
    fs'.locate p = .ok l := by
  obtain ⟨hfault, hwalk, hslash⟩ := locate_eq_ok.1 hl
  exact locate_eq_ok.2
    ⟨hfault, h.origin p ▸ h.walk hwalk, fun hp => h.directory (hslash hp)⟩

/-- A file that is as it was is read as before. -/
theorem readFile (h : Extends fs fs') {p : Path} {content : ByteArray}
    (hfile : fs'.fileAt (fs.target p) = fs.fileAt (fs.target p))
    (hread : fs.readFile p = .ok content) : fs'.readFile p = .ok content := by
  obtain ⟨l, hlocate, hl⟩ := readFile_eq_ok.1 hread
  obtain rfl := eq_target_of_locate hlocate
  exact readFile_eq_ok.2 ⟨_, h.locate hlocate, hfile.trans hl⟩

/-- An entry is as it was if its file is. -/
theorem entryAt? (h : Extends fs fs') {l : Location} {e : Entry}
    (hfile : fs'.fileAt l = fs.fileAt l) (hl : fs.entryAt? l = some e) :
    fs'.entryAt? l = some e := by
  cases e with
  | directory => exact h.directory hl
  | file content => exact fileAt_eq_some_iff.1 (hfile.trans (fileAt_eq_some_iff.2 hl))

theorem exists? (h : Extends fs fs') {p : Path} (hp : fs.exists? p = true) :
    fs'.exists? p = true := by
  obtain ⟨l, hlocate, hl⟩ := exists?_eq_true.1 hp
  exact exists?_eq_true.2 ⟨l, h.locate hlocate, h.isSome hl⟩

theorem isDirectory (h : Extends fs fs') {p : Path} (hp : fs.isDirectory p = true) :
    fs'.isDirectory p = true := by
  obtain ⟨l, hlocate, hl⟩ := isDirectory_eq_true.1 hp
  exact isDirectory_eq_true.2 ⟨l, h.locate hlocate, h.directory hl⟩

end Extends

end FileSystem
end CrudForge
