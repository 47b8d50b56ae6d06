import CrudForge.Proofs.FileSystem.Detour
import CrudForge.Proofs.Path.Names
import Mathlib.Data.List.Nodup
import Mathlib.Data.List.Perm.Basic

/-!
# Files below a directory

The files that are found below a directory are those that its path leads to when their names are put
behind it. Each is found once, and which are found does not depend on the order of the entries.

## Main definitions

* `FileSystem.HasFileBelow` — a file is below a directory, at names from there.
* `FileSystem.SameTree` — the same entries, in whatever order.
* `FileSystem.Storable` — all names are such that a disk can hold them.
-/

namespace CrudForge.FileSystem

variable {fs fs' : FileSystem} {p base : Path} {l m : Location} {names : List FileName}

/-- A file is at `names` below the directory that `p` leads to. -/
def HasFileBelow (fs : FileSystem) (p : Path) (names : List FileName) : Prop :=
  names ≠ [] ∧ ∃ l content, fs.locate p = .ok l ∧
    fs.entryAt? (names.reverse ++ l) = some (.file content)

/-- Names have no NUL and are not too long. -/
structure Storable (fs : FileSystem) : Prop where
  short : ∀ {l : Location} {e : Entry}, fs.entryAt? l = some e →
    ∀ name ∈ l, name.isTooLong = false
  nulFree : ∀ {l : Location} {e : Entry}, fs.entryAt? l = some e →
    ∀ name ∈ l, '\x00' ∉ name.text.toList

/-- The names of all entries are looked at. -/
instance (fs : FileSystem) : Decidable fs.Storable :=
  decidable_of_iff (∀ entry ∈ fs.entries, ∀ name ∈ entry.1,
      name.isTooLong = false ∧ '\x00' ∉ name.text.toList)
    ⟨fun h => ⟨fun hl name hname => (h _ (entryAt?_eq_some_iff.1 hl) name hname).1,
        fun hl name hname => (h _ (entryAt?_eq_some_iff.1 hl) name hname).2⟩,
      fun h _ hentry name hname => ⟨h.short (entryAt?_eq_some_iff.2 hentry) name hname,
        h.nulFree (entryAt?_eq_some_iff.2 hentry) name hname⟩⟩

/-! ## Finding -/

theorem pathBelow?_eq_some {path : Path} :
    pathBelow? l m = some path ↔
      ∃ names, names ≠ [] ∧ m = names.reverse ++ l ∧ path = .ofNames names := by
  unfold pathBelow?
  cases hsuffix : l.isSuffixOf? m with
  | none =>
    simp only [reduceCtorEq, false_iff]
    rintro ⟨names, -, hm, -⟩
    rw [List.isSuffixOf?_eq_some_iff_append_eq.2 hm.symm] at hsuffix
    simp at hsuffix
  | some front =>
    obtain rfl := List.isSuffixOf?_eq_some_iff_append_eq.1 hsuffix
    cases front with
    | nil =>
      simp only [reduceCtorEq, false_iff]
      rintro ⟨names, hne, hm, -⟩
      exact hne (by simpa using hm)
    | cons name front =>
      simp only [Option.some.injEq]
      constructor
      · rintro rfl
        exact ⟨(name :: front).reverse, by simp, by simp, rfl⟩
      · rintro ⟨names, -, hm, rfl⟩
        rw [List.append_cancel_right hm, List.reverse_reverse]
        rfl

theorem mem_filesBelow {path : Path} :
    path ∈ fs.filesBelow p ↔ ∃ names, fs.HasFileBelow p names ∧ path = .ofNames names := by
  unfold filesBelow HasFileBelow
  cases hlocate : fs.locate p with
  | error e => simp
  | ok l =>
    simp only [entriesBelow, List.mem_filterMap, Option.map_eq_some_iff, Prod.exists]
    constructor
    · rintro ⟨path', e, ⟨m, e', hmem, path'', hpath, heq⟩, hfile⟩
      obtain ⟨rfl, rfl⟩ := Prod.mk.inj heq
      obtain ⟨names, hne, rfl, rfl⟩ := pathBelow?_eq_some.1 hpath
      cases e' with
      | directory => simp at hfile
      | file content =>
        obtain rfl := Option.some.inj hfile
        exact ⟨names, ⟨hne, l, content, rfl, entryAt?_eq_some_iff.2 hmem⟩, rfl⟩
    · rintro ⟨names, ⟨hne, l', content, hl, hentry⟩, rfl⟩
      obtain rfl := Except.ok.inj hl
      exact ⟨_, .file content, ⟨_, _, entryAt?_eq_some_iff.1 hentry, _,
        pathBelow?_eq_some.2 ⟨names, hne, rfl, rfl⟩, rfl⟩, rfl⟩

/-- Different names make different paths. -/
theorem ofNames_inj {more : List FileName} (h : names ≠ []) (hmore : more ≠ [])
    (heq : Path.ofNames names = .ofNames more) : names = more := by
  have htexts := congrArg Path.segments heq
  rw [Path.segments_ofNames h, Path.segments_ofNames hmore] at htexts
  exact List.map_injective_iff.2 (fun _ _ => FileName.eq_of_text) htexts

/-- Each file is found once. -/
theorem nodup_filesBelow (fs : FileSystem) (p : Path) : (fs.filesBelow p).Nodup := by
  unfold filesBelow
  split
  · exact List.nodup_nil
  · rename_i l _
    have hdistinct : fs.entries.Pairwise fun a b => a.1 ≠ b.1 := List.pairwise_map.1 fs.distinct
    refine List.pairwise_filterMap.2 (List.pairwise_filterMap.2 (hdistinct.imp ?_))
    rintro ⟨m, e⟩ ⟨m', e'⟩ hne ⟨path, d⟩ hpath ⟨path', d'⟩ hpath' found hfound found' hfound' rfl
    obtain ⟨q, hq, heq⟩ := Option.map_eq_some_iff.1 hpath
    obtain ⟨q', hq', heq'⟩ := Option.map_eq_some_iff.1 hpath'
    obtain ⟨rfl, rfl⟩ := Prod.mk.inj heq
    obtain ⟨rfl, rfl⟩ := Prod.mk.inj heq'
    obtain ⟨names, hnames, rfl, rfl⟩ := pathBelow?_eq_some.1 hq
    obtain ⟨more, hmore, rfl, rfl⟩ := pathBelow?_eq_some.1 hq'
    have hsame : Path.ofNames names = .ofNames more := by grind
    exact hne (by rw [ofNames_inj hnames hmore hsame])

/-! ## The order of entries -/

/-- The same entries, in whatever order. -/
structure SameTree (fs fs' : FileSystem) : Prop where
  workingDirectory : fs'.workingDirectory = fs.workingDirectory
  entryAt? : ∀ l, fs'.entryAt? l = fs.entryAt? l

namespace SameTree

theorem symm (h : SameTree fs fs') : SameTree fs' fs :=
  ⟨h.workingDirectory.symm, fun l => (h.entryAt? l).symm⟩

theorem grown (h : SameTree fs fs') : Extends fs fs' :=
  ⟨h.workingDirectory, fun hl => (h.entryAt? _).trans hl,
    fun hl => ⟨_, (h.entryAt? _).trans hl⟩⟩

theorem perm_entries (h : SameTree fs fs') : fs'.entries.Perm fs.entries := by
  refine (List.perm_ext_iff_of_nodup (fs'.distinct.of_map _) (fs.distinct.of_map _)).2 ?_
  rintro ⟨l, e⟩
  rw [← entryAt?_eq_some_iff, ← entryAt?_eq_some_iff, h.entryAt?]

/-- The same files are found. -/
theorem perm_filesBelow (h : SameTree fs fs') (p : Path) :
    (fs'.filesBelow p).Perm (fs.filesBelow p) := by
  unfold filesBelow entriesBelow
  cases hlocate : fs.locate p with
  | ok l =>
    rw [h.grown.locate hlocate]
    exact (h.perm_entries.filterMap _).filterMap _
  | error e =>
    cases hlocate' : fs'.locate p with
    | ok l => simp [h.symm.grown.locate hlocate'] at hlocate
    | error e' => exact List.Perm.refl _

end SameTree

/-! ## Reading -/

/-- Names of entries lead to them. -/
theorem walk_down_eq_ok_of_isSome (hentry : (fs.entryAt? (names.reverse ++ l)).isSome)
    (hshort : ∀ name ∈ names, name.isTooLong = false) :
    fs.walk l (names.map .down) = .ok (names.reverse ++ l) := by
  induction names generalizing l with
  | nil => simp
  | cons name names ih =>
    have hlocation : (name :: names).reverse ++ l = names.reverse ++ name :: l := by simp
    rw [hlocation] at hentry ⊢
    obtain ⟨hname, hnames⟩ := List.forall_mem_cons.1 hshort
    have hsome := isSome_entryAt?_of_suffix hentry (List.suffix_append _ _)
    obtain ⟨e, he⟩ := Option.isSome_iff_exists.1 hsome
    exact walk_down_eq_ok.2 ⟨entryAt?_parent he, hname, hsome, ih hentry hnames⟩

theorem pathFault?_eq_none :
    pathFault? p = none ↔
      '\x00' ∉ p.text.toList ∧ p.text ≠ "" ∧ p.text.utf8ByteSize < pathSizeLimit := by
  unfold pathFault?
  simp only [List.contains_eq_mem, decide_eq_true_eq]
  grind

theorem text_join_ofNames (base : Path) (names : List FileName) :
    (base.join (.ofNames names)).text = base.text ++ base.gap ++ (Path.ofNames names).text := by
  rw [Path.join_of_relative (Path.isAbsolute_ofNames names)]

/-- The text of a path is in order if it is with names behind it. -/
theorem pathFault?_of_join (hbase : base.text ≠ "")
    (h : pathFault? (base.join (.ofNames names)) = none) : pathFault? base = none := by
  obtain ⟨hnul, -, hsize⟩ := pathFault?_eq_none.1 h
  rw [text_join_ofNames] at hnul hsize
  simp only [String.utf8ByteSize_append] at hsize
  exact pathFault?_eq_none.2 ⟨fun hmem => hnul (by simp [hmem]), hbase, by omega⟩

/-- Names behind a path are followed from where the path leads. -/
theorem locate_join_ofNames (hne : names ≠ []) (hbase : base.text ≠ "") :
    fs.locate (base.join (.ofNames names)) = .ok m ↔
      pathFault? (base.join (.ofNames names)) = none ∧
        ∃ l, fs.locate base = .ok l ∧ fs.walk l (names.map .down) = .ok m := by
  have hslash : (base.join (.ofNames names)).endsInSlash = false := by
    rw [Path.endsInSlash_join (Path.text_ofNames_ne_empty hne), Path.endsInSlash_ofNames]
  simp only [locate_eq_ok, origin_join_ofNames, Path.steps_join_ofNames hne, walk_append_eq_ok,
    hslash, Bool.false_eq_true, false_implies, and_true]
  refine and_congr_right fun hfault => exists_congr fun l => ?_
  constructor
  · rintro ⟨hwalk, hnames⟩
    obtain ⟨name, rest, rfl⟩ := List.exists_cons_of_ne_nil hne
    have hdirectory := (walk_down_eq_ok.1 hnames).1
    exact ⟨⟨pathFault?_of_join hbase hfault, hwalk, fun _ => hdirectory⟩, hnames⟩
  · rintro ⟨⟨-, hwalk, -⟩, hnames⟩
    exact ⟨hwalk, hnames⟩

theorem notMem_ofNames {c : Char} (hc : c ≠ '/') (h : ∀ name ∈ names, c ∉ name.text.toList) :
    c ∉ (Path.ofNames names).text.toList :=
  Text.notMem_join (by simpa using hc) (List.forall_mem_map.2 h)

theorem isFile_eq_true :
    fs.isFile p = true ↔ ∃ content, fs.readFile p = .ok content := by
  unfold isFile readFile
  rcases fs.find p with e | (_ | content) <;> simp

/-- A path that is not too long leads to a file if that is found below the directory. -/
theorem isFile_join_ofNames (h : fs.Storable) (hne : names ≠ []) (hbase : base.text ≠ "") :
    fs.isFile (base.join (.ofNames names)) = true ↔
      fs.HasFileBelow base names ∧
        (base.join (.ofNames names)).text.utf8ByteSize < pathSizeLimit := by
  simp only [isFile_eq_true, readFile_eq_ok, fileAt_eq_some_iff]
  constructor
  · rintro ⟨content, m, hlocate, hentry⟩
    obtain ⟨hfault, l, hl, hwalk⟩ := (locate_join_ofNames hne hbase).1 hlocate
    have hm := eq_follow_of_walk hwalk
    rw [Location.follow_down] at hm
    exact ⟨⟨hne, l, content, hl, hm ▸ hentry⟩, (pathFault?_eq_none.1 hfault).2.2⟩
  · rintro ⟨⟨-, l, content, hl, hentry⟩, hsize⟩
    have hnames : ∀ name ∈ names, name ∈ names.reverse ++ l := by simp +contextual
    have hnul : '\x00' ∉ (base.join (.ofNames names)).text.toList := by
      obtain ⟨hfault, -⟩ := locate_eq_ok.1 hl
      have hbasenul := (pathFault?_eq_none.1 hfault).1
      have hnamesnul : '\x00' ∉ (Path.ofNames names).text.toList :=
        notMem_ofNames (by decide) fun name hname => h.nulFree hentry name (hnames name hname)
      have hgap : '\x00' ∉ base.gap.toList := by
        unfold Path.gap
        split <;> decide
      simp [text_join_ofNames, hbasenul, hgap, hnamesnul]
    have htext : (base.join (.ofNames names)).text ≠ "" := by simp [text_join_ofNames, hbase]
    have hwalk : fs.walk l (names.map .down) = .ok (names.reverse ++ l) :=
      walk_down_eq_ok_of_isSome (by simp [hentry])
        fun name hname => h.short hentry name (hnames name hname)
    have hlocate := (locate_join_ofNames hne hbase).2
      ⟨pathFault?_eq_none.2 ⟨hnul, htext, hsize⟩, l, hl, hwalk⟩
    exact ⟨content, _, hlocate, hentry⟩

end CrudForge.FileSystem
