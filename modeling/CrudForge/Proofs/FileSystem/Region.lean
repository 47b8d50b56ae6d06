import CrudForge.Proofs.Path.Names

/-!
# Undisturbed regions

A region is a location with all below it. It is undisturbed if nothing changes in it and no file
changes on the way to it; directories on the way may be new. Then whatever is read in the region by
a path of names is read as before, errors included: where the way was missing, the region still is.

## Main definitions

* `FileSystem.Undisturbed` — a region that is as it was.
* `FileSystem.Apart` — names of which neither leads to the other.
-/

namespace CrudForge.FileSystem

/-- The region at `region` is as it was in `fs`. -/
structure Undisturbed (fs fs' : FileSystem) (region : Location) : Prop where
  grown : Extends fs fs'
  way : ∀ {l : Location}, l <:+ region → fs'.fileAt l = fs.fileAt l
  inside : ∀ {l : Location}, region <:+ l → fs'.entryAt? l = fs.entryAt? l

namespace Undisturbed

variable {fs fs' fs'' : FileSystem} {region : Location}

theorem refl (fs : FileSystem) (region : Location) : Undisturbed fs fs region :=
  ⟨.refl fs, fun _ => rfl, fun _ => rfl⟩

theorem trans (h : Undisturbed fs fs' region) (h' : Undisturbed fs' fs'' region) :
    Undisturbed fs fs'' region where
  grown := h.grown.trans h'.grown
  way hl := (h'.way hl).trans (h.way hl)
  inside hl := (h'.inside hl).trans (h.inside hl)

/-- In the region all walks go as before. -/
theorem walk_inside (h : Undisturbed fs fs' region) {l : Location} (hl : region <:+ l)
    (names : List FileName) : fs'.walk l (names.map .down) = fs.walk l (names.map .down) := by
  induction names generalizing l with
  | nil => rfl
  | cons name names ih =>
    have hname : region <:+ name :: l := hl.trans (List.suffix_cons name l)
    simp only [List.map_cons, walk_cons, h.inside hl, h.inside hname, ih hname]

/-- A new directory in front of the region leads to nothing. -/
theorem walk_new (h : Undisturbed fs fs' region) {l : Location} {way rest : List FileName}
    (hregion : region = way.reverse ++ l) (hshort : ∀ name ∈ way, name.isTooLong = false)
    (hold : fs.entryAt? l = none) (hnew : (fs'.entryAt? l).isSome) :
    fs'.walk l ((way ++ rest).map .down) = .error .missing := by
  induction way generalizing l with
  | nil =>
    obtain rfl : region = l := by simpa using hregion
    simp [h.inside (List.suffix_refl _), hold] at hnew
  | cons name way ih =>
    have hl : l <:+ region := hregion ▸ List.suffix_append _ _
    have hdirectory : fs'.entryAt? l = some .directory := by
      have hfile : fs'.fileAt l = none := by rw [h.way hl, FileSystem.fileAt, hold]
      obtain ⟨e, he⟩ := Option.isSome_iff_exists.1 hnew
      cases e with
      | directory => exact he
      | file content => simp [fileAt_eq_some_iff.2 he] at hfile
    have hnone : fs.entryAt? (name :: l) = none := by
      refine Option.eq_none_iff_forall_ne_some.2 fun e he => ?_
      simp [entryAt?_parent he] at hold
    have hname := hshort name (by simp)
    simp only [List.cons_append, List.map_cons, walk_cons, hdirectory, hname]
    cases hnext : fs'.entryAt? (name :: l) with
    | none => simp
    | some e =>
      simpa using ih (by simp [hregion]) (fun n hn => hshort n (List.mem_cons_of_mem _ hn)) hnone
        (by simp [hnext])

/-- A walk to the region and on goes as before. -/
theorem walk_to (h : Undisturbed fs fs' region) {l : Location} {way rest : List FileName}
    (hregion : region = way.reverse ++ l) (hshort : ∀ name ∈ way, name.isTooLong = false)
    (hl : (fs.entryAt? l).isSome) :
    fs'.walk l ((way ++ rest).map .down) = fs.walk l ((way ++ rest).map .down) := by
  induction way generalizing l with
  | nil =>
    obtain rfl : region = l := by simpa using hregion
    exact h.walk_inside (List.suffix_refl _) rest
  | cons name way ih =>
    have hname := hshort name (by simp)
    have hregion' : region = way.reverse ++ name :: l := by simp [hregion]
    have hshort' : ∀ n ∈ way, n.isTooLong = false :=
      fun n hn => hshort n (List.mem_cons_of_mem _ hn)
    obtain ⟨e, he⟩ := Option.isSome_iff_exists.1 hl
    simp only [List.cons_append, List.map_cons, walk_cons, he, hname]
    cases e with
    | file content =>
      obtain ⟨content', he'⟩ := h.grown.file he
      simp [he']
    | directory =>
      simp only [h.grown.directory he]
      cases hold : fs.entryAt? (name :: l) with
      | some e' =>
        have hnew := h.grown.isSome (l := name :: l) (by simp [hold])
        obtain ⟨e'', he''⟩ := Option.isSome_iff_exists.1 hnew
        simpa [he''] using ih hregion' hshort' (by simp [hold])
      | none =>
        cases hnew : fs'.entryAt? (name :: l) with
        | none => simp
        | some e' => simpa using h.walk_new hregion' hshort' hold (by simp [hnew])

variable {base : Path} {way rest : List FileName}

theorem locate_eq (h : Undisturbed fs fs' (way.reverse ++ fs.target base))
    (hbase : fs.isDirectory base = true) (hshort : ∀ name ∈ way, name.isTooLong = false)
    (hne : way ++ rest ≠ []) :
    fs'.locate (base.join (.ofNames (way ++ rest))) =
      fs.locate (base.join (.ofNames (way ++ rest))) := by
  obtain ⟨l, hlocate, hl⟩ := isDirectory_eq_true.1 hbase
  obtain ⟨-, hwalk, -⟩ := locate_eq_ok.1 hlocate
  obtain rfl := eq_target_of_locate hlocate
  have hwalk' := h.grown.walk hwalk
  have hslash : (base.join (.ofNames (way ++ rest))).endsInSlash = false := by
    rw [Path.endsInSlash_join (Path.text_ofNames_ne_empty hne), Path.endsInSlash_ofNames]
  unfold locate
  simp only [hslash, origin_join_ofNames, h.grown.origin, Path.steps_join_ofNames hne]
  cases pathFault? (base.join (.ofNames (way ++ rest))) with
  | some e => rfl
  | none =>
    have hto : fs'.walk (fs.target base) ((way ++ rest).map .down) =
        fs.walk (fs.target base) ((way ++ rest).map .down) := h.walk_to rfl hshort (by simp [hl])
    simp only [Bool.false_eq_true, if_false, walk_append_of_ok hwalk, walk_append_of_ok hwalk', hto]

/-- What is read in the region is what was read there. -/
theorem readText_eq (h : Undisturbed fs fs' (way.reverse ++ fs.target base))
    (hbase : fs.isDirectory base = true) (hshort : ∀ name ∈ way, name.isTooLong = false)
    (hne : way ++ rest ≠ []) :
    fs'.readText (base.join (.ofNames (way ++ rest))) =
      fs.readText (base.join (.ofNames (way ++ rest))) := by
  have hfind : fs'.find (base.join (.ofNames (way ++ rest))) =
      fs.find (base.join (.ofNames (way ++ rest))) := by
    unfold find
    rw [h.locate_eq hbase hshort hne]
    cases hlocate : fs.locate (base.join (.ofNames (way ++ rest))) with
    | error e => rfl
    | ok l =>
      have hl : way.reverse ++ fs.target base <:+ l := by
        rw [eq_target_of_locate hlocate, target_join_ofNames hne, List.reverse_append,
          List.append_assoc]
        exact List.suffix_append _ _
      simp [h.inside hl]
  simp [readText, readFile, hfind]

end Undisturbed

/-! ## Names that keep apart -/

/-- Neither names lead to the other. -/
def Apart (names others : List FileName) : Prop :=
  ¬names <+: others ∧ ¬others <+: names

/-- Locations below `m` lie below each other as their names lead to each other. -/
theorem isPrefix_of_suffix {first names : List FileName} {m : Location}
    (h : first.reverse ++ m <:+ names.reverse ++ m) : first <+: names := by
  obtain ⟨between, hbetween⟩ := h
  rw [← List.append_assoc, List.append_left_inj] at hbetween
  exact List.reverse_suffix.1 ⟨between, hbetween⟩

namespace Apart

variable {names way first : List FileName} {l m : Location}

theorem ne_of_suffix (h : Apart names way) (hl : l <:+ way.reverse ++ m) :
    l ≠ names.reverse ++ m := by
  rintro rfl
  exact h.1 (isPrefix_of_suffix hl)

theorem not_suffix (h : Apart names way) (hfirst : first <+: names) :
    ¬way.reverse ++ m <:+ first.reverse ++ m := fun hl =>
  h.2 ((isPrefix_of_suffix hl).trans hfirst)

end Apart

/-- Files at places apart from a region, and directories on the way to them, leave it as it is. -/
theorem undisturbed_of_apart {fs fs' : FileSystem} {base : Path} {way : List FileName}
    {touched : List (List FileName)} (hgrown : Extends fs fs')
    (hbase : fs.isDirectory base = true)
    (htouched : ∀ names ∈ touched, names ≠ [] ∧ Apart names way)
    (hfile : ∀ l, (∀ names ∈ touched, l ≠ names.reverse ++ fs.target base) →
      fs'.fileAt l = fs.fileAt l)
    (hdirectory : ∀ l, fs'.entryAt? l = some .directory → fs.entryAt? l = some .directory ∨
      ∃ names ∈ touched, fs.OnWay (base.join (.ofNames names)) l) :
    Undisturbed fs fs' (way.reverse ++ fs.target base) where
  grown := hgrown
  way hl := hfile _ fun names hnames => (htouched names hnames).2.ne_of_suffix hl
  inside := by
    intro l hl
    have hsame : fs'.fileAt l = fs.fileAt l := by
      refine hfile l fun names hnames => ?_
      rintro rfl
      exact (htouched names hnames).2.not_suffix (List.prefix_refl _) hl
    cases hold : fs.entryAt? l with
    | some e =>
      cases e with
      | directory => exact hgrown.directory hold
      | file content =>
        rw [fileAt_eq_some_iff.2 hold] at hsame
        exact fileAt_eq_some_iff.1 hsame
    | none =>
      refine Option.eq_none_iff_forall_ne_some.2 fun e hnew => ?_
      cases e with
      | file content =>
        rw [fileAt_eq_some_iff.2 hnew] at hsame
        simp [fileAt_eq_some_iff.1 hsame.symm] at hold
      | directory =>
        rcases hdirectory l hnew with hdirectory | ⟨names, hnames, hway⟩
        · simp [hold] at hdirectory
        · obtain ⟨hne, hapart⟩ := htouched names hnames
          rcases onWay_join_ofNames hne hway with hway | ⟨first, hfirst, rfl⟩
          · obtain ⟨m, hlocate, hm⟩ := isDirectory_eq_true.1 hbase
            simpa [hold] using isSome_entryAt?_of_onWay hlocate (by simp [hm]) hway
          · exact hapart.not_suffix hfirst hl

end CrudForge.FileSystem
