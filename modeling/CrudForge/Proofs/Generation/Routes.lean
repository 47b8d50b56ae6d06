import CrudForge.Proofs.FileSystem.Writes
import CrudForge.Proofs.Generation.Render
import CrudForge.Proofs.Naming.Plural
import CrudForge.Proofs.Text.Cut
import CrudForge.Route

/-!
# Registering routes one after the other

A route file grows at its end by the lines that a list would collect. Between two line feeds stands
one registration, and the name of its resource is read from it: neither the plural in front of the
name nor the name itself has a blank, so the name starts behind the only one.

## Main definitions

* `RouteSink.appendAll` — appends lines one after the other.
* `registration`, `registeredName?` — a route line without its line feed, and the name in it.
* `FileSystem.Extended` — a file with a text behind what it held.
-/

namespace CrudForge

open Text FileSystem

/-! ## Registrations -/

/-- What registers a resource, without a line feed. -/
def registration (resource : String) : String :=
  "Route::resource('" ++ Naming.plural resource ++ "', " ++ Naming.controller resource ++
    "::class);"

/-- The name that a line registers: what stands between its first blank and the end of the class of
a controller. -/
def registeredName? (line : String) : Option String :=
  match cutFirst? ' ' line with
  | some (_, behind) =>
    ("Controller::class);".toList.isSuffixOf? behind.toList).map String.ofList
  | none => none

theorem routeLine_eq (resource : String) : routeLine resource = "\n" ++ registration resource := by
  unfold routeLine registration
  generalize Naming.plural resource = plural
  refine String.toList_inj.1 ?_
  simp

theorem notMem_of_isClassName {name : String} {c : Char} (hname : Naming.isClassName name = true)
    (hc : (c.isAlphanum || c = '_') = false) : c ∉ name.toList := by
  intro hmem
  unfold Naming.isClassName at hname
  split at hname
  · simp at hname
  · rename_i d ds hds
    rw [Bool.and_eq_true, ← hds, List.all_eq_true] at hname
    exact Bool.false_ne_true (hc.symm.trans (hname.2 c hmem))

theorem notMem_plural {name : String} {c : Char} (hname : Naming.isClassName name = true)
    (hc : Naming.isLowerChar c = false) : c ∉ (Naming.plural name).toList := by
  intro hmem
  have hlower := Naming.isLowerChar_of_mem (Naming.isLowerName_plural hname) c hmem
  exact Bool.false_ne_true (hc.symm.trans hlower)

section Names

variable {resource : ResourceName}

theorem feed_notMem_registration (resource : ResourceName) :
    '\n' ∉ (registration resource.text).toList := by
  have hname := notMem_of_isClassName (c := '\n') resource.isClassName (by decide)
  have hplural := notMem_plural (c := '\n') resource.isClassName (by decide)
  unfold registration
  generalize Naming.plural resource.text = plural at hplural ⊢
  simp [Naming.controller, hname, hplural]

/-- The name of a resource is read back from its registration. -/
theorem registeredName?_registration (resource : ResourceName) :
    registeredName? (registration resource.text) = some resource.text := by
  have hplural := notMem_plural (c := ' ') resource.isClassName (by decide)
  unfold registration
  generalize Naming.plural resource.text = plural at hplural ⊢
  have hfront : ' ' ∉ ("Route::resource('" ++ plural ++ "',").toList := by
    simp [hplural]
  have hline : "Route::resource('" ++ plural ++ "', " ++ Naming.controller resource.text ++
      "::class);" = ("Route::resource('" ++ plural ++ "',") ++ String.singleton ' ' ++
        (resource.text ++ "Controller::class);") := by
    refine String.toList_inj.1 ?_
    simp [Naming.controller]
  have hends : "Controller::class);".toList.isSuffixOf?
      (resource.text ++ "Controller::class);").toList = some resource.text.toList :=
    List.isSuffixOf?_eq_some_iff_append_eq.2 String.toList_append.symm
  rw [registeredName?, hline, cutFirst?_append hfront]
  simp only [hends, Option.map_some, String.ofList_toList]

/-- Texts that start with what separates them are joined behind an empty one. -/
theorem concat_map_append (sep : String) (texts : List String) :
    concat (texts.map (sep ++ ·)) = join sep ("" :: texts) := by
  induction texts with
  | nil => rfl
  | cons text rest ih =>
    have hcons : concat ((text :: rest).map (sep ++ ·)) =
        sep ++ text ++ concat (rest.map (sep ++ ·)) := rfl
    rw [hcons, ih]
    cases rest with
    | nil => simp [join]
    | cons next rest => simp [join, String.append_assoc]

/-- The lines of resources are cut into their registrations, behind an empty piece. -/
theorem cut_concat_routeLine (names : List ResourceName) :
    cut '\n' (concat (names.map fun name => routeLine name.text)) =
      "" :: names.map fun name => registration name.text := by
  have hlines : names.map (fun name => routeLine name.text) =
      (names.map fun name => registration name.text).map ("\n" ++ ·) := by
    simp only [List.map_map, Function.comp_def, routeLine_eq]
  rw [hlines, concat_map_append]
  apply @cut_join '\n' _ (List.cons_ne_nil _ _)
  intro piece hpiece
  rcases List.mem_cons.1 hpiece with rfl | hpiece
  · simp
  · obtain ⟨name, -, rfl⟩ := List.mem_map.1 hpiece
    exact feed_notMem_registration name

theorem map_registeredName? (names : List ResourceName) :
    (names.map fun name => registration name.text).map registeredName? =
      names.map fun name => some name.text := by
  simp only [List.map_map, Function.comp_def, registeredName?_registration]

/-- Different names have different lines, also one behind the other. -/
theorem names_eq_of_concat_eq {names names' : List ResourceName}
    (h : concat (names'.map fun name => routeLine name.text) =
      concat (names.map fun name => routeLine name.text)) : names' = names := by
  have hcut := congrArg (cut '\n') h
  rw [cut_concat_routeLine, cut_concat_routeLine, List.cons.injEq] at hcut
  have hread := congrArg (List.map registeredName?) hcut.2
  rw [map_registeredName?, map_registeredName?] at hread
  refine (List.map_inj_right fun name name' hname => ?_).1 hread
  cases name
  cases name'
  simpa using hname

end Names

/-! ## Appending -/

/-- The file at `p` has `text` behind what it held, and all other files are as they were. -/
structure FileSystem.Extended (fs : FileSystem) (p : Path) (text : String) (fs' : FileSystem) :
    Prop where
  grown : Extends fs fs'
  located : fs'.locate p = .ok (fs.target p)
  fileAt : ∀ l, fs'.fileAt l =
    if l = fs.target p then some ((fs.fileAt l).getD .empty ++ text.toUTF8) else fs.fileAt l

namespace FileSystem.Extended

variable {fs fs' fs'' : FileSystem} {p : Path} {text more : String}

theorem trans (h : Extended fs p text fs') (h' : Extended fs' p more fs'') :
    Extended fs p (text ++ more) fs'' := by
  have htarget := h.grown.target p
  refine ⟨h.grown.trans h'.grown, htarget ▸ h'.located, fun l => ?_⟩
  rw [h'.fileAt, h.fileAt, htarget]
  split
  · simp [String.toByteArray_append, ByteArray.append_assoc]
  · rfl

theorem readFile (h : Extended fs p text fs') :
    fs'.readFile p = .ok ((fs.fileAt (fs.target p)).getD .empty ++ text.toUTF8) := by
  refine readFile_eq_ok.2 ⟨_, h.located, ?_⟩
  rw [h.fileAt, if_pos rfl]

/-- A file that held text holds longer text. -/
theorem readText (h : Extended fs p text fs') {old : String} (hold : fs.readText p = .ok old) :
    fs'.readText p = .ok (old ++ text) := by
  rw [readText_eq_ok, h.readFile, fileAt_of_readText hold]
  simp [String.toByteArray_append]

theorem readText_of_absent (h : Extended fs p text fs')
    (hnone : fs.fileAt (fs.target p) = none) : fs'.readText p = .ok text := by
  rw [readText_eq_ok, h.readFile, hnone]
  simp

end FileSystem.Extended

namespace RouteSink

/-- Appends the lines one after the other, up to the first that cannot be stored. -/
def appendAll (sink : RouteSink) (lines : List String) (fs : FileSystem) :
    Except WriteError RouteSink × FileSystem :=
  match lines with
  | [] => (.ok sink, fs)
  | line :: rest =>
    match sink.append line fs with
    | (.error e, fs') => (.error e, fs')
    | (.ok sink', fs') => sink'.appendAll rest fs'

variable {fs fs' : FileSystem} {p : Path} {sink : RouteSink} {line : String} {lines : List String}

/-- A list collects the lines. -/
theorem appendAll_memory (held lines : List String) (fs : FileSystem) :
    (memory held).appendAll lines fs = (.ok (memory (held ++ lines)), fs) := by
  induction lines generalizing held with
  | nil => simp [appendAll]
  | cons line rest ih => simp [appendAll, append, ih]

theorem appendAll_fresh (lines : List String) (fs : FileSystem) :
    fresh.appendAll lines fs = (.ok (memory lines), fs) :=
  appendAll_memory [] lines fs

/-- A line that is appended to a file stands at its end. -/
theorem extended_of_append (h : (file p).append line fs = (.ok sink, fs')) :
    sink = file p ∧ Extended fs p line fs' := by
  have hstores := stores_storeWith fs p fun old => old ++ line.toUTF8
  change Stores fs p _ (fs.extendText p line).1 (fs.extendText p line).2 at hstores
  rw [append] at h
  split at h
  · rename_i hextend
    obtain ⟨hsink, rfl⟩ := Prod.mk.inj h
    rw [hextend] at hstores
    obtain ⟨hlocated, hfile⟩ := hstores.stored rfl
    exact ⟨(Except.ok.inj hsink).symm, hstores.grown, hlocated, hfile⟩
  · simp at h

/-- Lines that are appended to a file stand at its end, in order. -/
theorem extended_of_appendAll (hne : lines ≠ [])
    (h : (file p).appendAll lines fs = (.ok sink, fs')) :
    sink = file p ∧ Extended fs p (concat lines) fs' := by
  induction lines generalizing fs with
  | nil => exact absurd rfl hne
  | cons line rest ih =>
    rw [appendAll] at h
    split at h
    · simp at h
    · rename_i sink' middle happend
      obtain ⟨rfl, hfirst⟩ := extended_of_append happend
      cases rest with
      | nil =>
        obtain ⟨hsink, rfl⟩ := Prod.mk.inj h
        refine ⟨(Except.ok.inj hsink).symm, ?_⟩
        simpa [concat] using hfirst
      | cons next rest =>
        obtain ⟨hsink, hrest⟩ := ih (List.cons_ne_nil _ _) h
        exact ⟨hsink, hfirst.trans hrest⟩

/-- A route file to which the lines of resources were appended holds what it held and then the lines
that a list collects. Between the line feeds of what was added stand the registrations, one for each
name, and their names are read back, so no other names add the same. -/
theorem appendAll_refines {names : List ResourceName}
    (h : (file p).appendAll (names.map fun name => routeLine name.text) fs = (.ok sink, fs')) :
    ∃ lines, fresh.appendAll (names.map fun name => routeLine name.text) fs =
        (.ok (memory lines), fs) ∧
      sink = file p ∧
      (names = [] → fs' = fs) ∧
      (names ≠ [] → fs'.readFile p =
        .ok ((fs.fileAt (fs.target p)).getD .empty ++ (concat lines).toUTF8)) ∧
      (∀ text, fs.readText p = .ok text → fs'.readText p = .ok (text ++ concat lines)) ∧
      (fs.fileAt (fs.target p) = none → names ≠ [] → fs'.readText p = .ok (concat lines)) ∧
      cut '\n' (concat lines) = "" :: names.map (fun name => registration name.text) ∧
      (∀ name ∈ names, registeredName? (registration name.text) = some name.text) ∧
      ∀ names' : List ResourceName,
        concat (names'.map fun name => routeLine name.text) = concat lines → names' = names := by
  refine ⟨_, appendAll_fresh _ fs, ?_⟩
  have hlines : (∀ name ∈ names, registeredName? (registration name.text) = some name.text) ∧
      ∀ names' : List ResourceName, concat (names'.map fun name => routeLine name.text) =
        concat (names.map fun name => routeLine name.text) → names' = names :=
    ⟨fun name _ => registeredName?_registration name, fun _ => names_eq_of_concat_eq⟩
  by_cases hne : names = []
  · subst hne
    obtain ⟨hsink, rfl⟩ := Prod.mk.inj h
    refine ⟨(Except.ok.inj hsink).symm, fun _ => rfl, fun hne => absurd rfl hne, ?_,
      fun _ hne => absurd rfl hne, cut_concat_routeLine [], hlines⟩
    intro text htext
    simpa [concat] using htext
  · obtain ⟨hsink, hextended⟩ := extended_of_appendAll (by simpa using hne) h
    exact ⟨hsink, fun hempty => absurd hempty hne, fun _ => hextended.readFile,
      fun text => hextended.readText, fun hnone _ => hextended.readText_of_absent hnone,
      cut_concat_routeLine names, hlines⟩

/-- Resources with one plural, one of them named like the controller of another. -/
def flock : List ResourceName :=
  [⟨"Sheep", by decide⟩, ⟨"sheep", by decide⟩, ⟨"SheepController", by decide⟩]

/-- A project with a route file that does not end in a line feed. -/
def openEnded : FileSystem :=
  (FileSystem.empty.storeText ⟨"routes/web.php"⟩ "<?php").2

theorem appendAll_refines_flock :
    ∃ fs', (file ⟨"routes/web.php"⟩).appendAll (flock.map fun name => routeLine name.text)
        openEnded = (.ok (file ⟨"routes/web.php"⟩), fs') ∧
      fs'.readText ⟨"routes/web.php"⟩ = .ok ("<?php" ++
        concat (flock.map fun name => routeLine name.text)) := by
  have hok : ((file ⟨"routes/web.php"⟩).appendAll (flock.map fun name => routeLine name.text)
      openEnded).1.isOk = true := by decide
  have hold : openEnded.readText ⟨"routes/web.php"⟩ = .ok "<?php" := by decide
  rcases hrun : (file ⟨"routes/web.php"⟩).appendAll (flock.map fun name => routeLine name.text)
    openEnded with ⟨told, fs'⟩
  rw [hrun] at hok
  obtain ⟨sink, rfl⟩ := exists_eq_ok_of_isOk hok
  obtain ⟨lines, hlines, rfl, -, -, htext, -⟩ := appendAll_refines hrun
  rw [appendAll_fresh] at hlines
  obtain rfl := RouteSink.memory.inj (Except.ok.inj (Prod.mk.inj hlines).1)
  exact ⟨fs', hrun, htext _ hold⟩

end RouteSink

end CrudForge
