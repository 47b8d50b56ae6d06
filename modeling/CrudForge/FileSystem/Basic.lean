import CrudForge.Path

/-!
# The file system

Directories and regular files as a value.

A location lists the names from an entry up to the root. The value keeps three facts: every
location has one entry, the root is a directory, and whatever holds an entry is a directory.

## Main definitions

* `FileName`, `Location` — names without slashes, and where an entry is.
* `FileSystem` — the entries and the working directory.
* `FileSystem.entryAt?` — what is at a location.
* `FileSystem.put` — the file system with one entry set, described by `entryAt?_put`.
* `FileSystem.erase` — the file system without an entry and all below it.
-/

namespace CrudForge

def isFileName (text : String) : Bool :=
  text ≠ "" && text ≠ "." && text ≠ ".." && !text.toList.contains '/'

structure FileName where
  text : String
  isFileName : isFileName text = true
  deriving DecidableEq

/-- The names from an entry up to the root, which has none. -/
abbrev Location := List FileName

inductive Entry
  | directory
  | file (content : ByteArray)

instance : DecidableEq Entry
  | .directory, .directory => isTrue rfl
  | .directory, .file _ => isFalse nofun
  | .file _, .directory => isFalse nofun
  | .file a, .file b =>
    match ByteArray.instDecidableEq a b with
    | isTrue h => isTrue (h ▸ rfl)
    | isFalse h => isFalse fun heq => h (Entry.file.inj heq)

/-- A tree of directories and files. -/
structure FileSystem where
  entries : List (Location × Entry)
  workingDirectory : Location
  distinct : (entries.map (·.1)).Nodup
  rooted : ([], .directory) ∈ entries
  closed : ∀ {name : FileName} {parent : Location} {e : Entry},
    (name :: parent, e) ∈ entries → (parent, .directory) ∈ entries

namespace FileSystem

def empty : FileSystem where
  entries := [([], .directory)]
  workingDirectory := []
  distinct := by simp
  rooted := by simp
  closed h := by simp at h

def entryAt? (fs : FileSystem) (l : Location) : Option Entry :=
  (fs.entries.find? (·.1 = l)).map (·.2)

/-- The file system with another working directory. -/
def within (fs : FileSystem) (l : Location) : FileSystem :=
  { fs with workingDirectory := l }

theorem mem_of_entryAt? {fs : FileSystem} {l : Location} {e : Entry} (h : fs.entryAt? l = some e) :
    (l, e) ∈ fs.entries := by
  obtain ⟨⟨l', e'⟩, hfind, rfl⟩ := Option.map_eq_some_iff.1 h
  have hl : l' = l := by simpa using List.find?_some hfind
  exact hl ▸ List.mem_of_find?_eq_some hfind

theorem find?_eq_of_mem {es : List (Location × Entry)} (hd : (es.map (·.1)).Nodup) {l : Location}
    {e : Entry} (h : (l, e) ∈ es) : es.find? (·.1 = l) = some (l, e) := by
  induction es with
  | nil => simp at h
  | cons x es ih =>
    simp only [List.map_cons, List.nodup_cons] at hd
    rcases List.mem_cons.1 h with rfl | hmem
    · simp
    · have hx : x.1 ≠ l := by
        rintro rfl
        exact hd.1 (List.mem_map.2 ⟨_, hmem, rfl⟩)
      simp [hx, ih hd.2 hmem]

/-- The entries of the list are what is found. -/
theorem entryAt?_eq_some_iff {fs : FileSystem} {l : Location} {e : Entry} :
    fs.entryAt? l = some e ↔ (l, e) ∈ fs.entries :=
  ⟨mem_of_entryAt?, fun h => by simp [entryAt?, find?_eq_of_mem fs.distinct h]⟩

/-- What holds an entry is a directory. -/
theorem entryAt?_parent {fs : FileSystem} {name : FileName} {parent : Location} {e : Entry}
    (h : fs.entryAt? (name :: parent) = some e) : fs.entryAt? parent = some .directory :=
  entryAt?_eq_some_iff.2 (fs.closed (entryAt?_eq_some_iff.1 h))

/-- Sets the entry `name` of the directory `parent`. No file takes the place of a directory. -/
def put (fs : FileSystem) (name : FileName) (parent : Location) (e : Entry)
    (hp : fs.entryAt? parent = some .directory)
    (he : e = .directory ∨ fs.entryAt? (name :: parent) ≠ some .directory) : FileSystem where
  entries := (name :: parent, e) :: fs.entries.filter (·.1 ≠ name :: parent)
  workingDirectory := fs.workingDirectory
  distinct := by
    simp only [List.map_cons, List.nodup_cons, List.mem_map, List.mem_filter]
    refine ⟨?_, ?_⟩
    · rintro ⟨x, ⟨-, hx⟩, hl⟩
      simp [hl] at hx
    · exact fs.distinct.sublist (List.filter_sublist.map _)
  rooted := by simp [fs.rooted]
  closed := by
    intro n p e' h
    have hself : parent ≠ name :: parent := fun h => by simpa using congrArg List.length h
    have hold : (p, Entry.directory) ∈ fs.entries := by
      rcases List.mem_cons.1 h with heq | hmem
      · simp only [Prod.mk.injEq, List.cons.injEq] at heq
        exact heq.1.2 ▸ entryAt?_eq_some_iff.1 hp
      · exact fs.closed (List.mem_filter.1 hmem).1
    by_cases hp' : p = name :: parent
    · subst hp'
      rcases he with rfl | hne
      · simp
      · exact absurd (entryAt?_eq_some_iff.2 hold) hne
    · simp [hold, hp']

theorem find?_filter_ne {es : List (Location × Entry)} {l m : Location} (h : l ≠ m) :
    (es.filter (·.1 ≠ m)).find? (·.1 = l) = es.find? (·.1 = l) := by
  induction es with
  | nil => rfl
  | cons x es ih =>
    by_cases hm : x.1 = m
    · have hl : x.1 ≠ l := fun e => h (e.symm.trans hm)
      simp_all
    · by_cases hl : x.1 = l <;> simp_all

/-- Setting an entry changes what is at its location and nothing else. -/
theorem entryAt?_put (fs : FileSystem) (name : FileName) (parent : Location) (e : Entry) (hp he)
    (l : Location) :
    (fs.put name parent e hp he).entryAt? l =
      if l = name :: parent then some e else fs.entryAt? l := by
  by_cases h : l = name :: parent
  · simp [entryAt?, put, h]
  · have h' : name :: parent ≠ l := fun e => h e.symm
    simp only [entryAt?, put, List.find?_cons, decide_eq_false h', if_neg h]
    exact congrArg _ (find?_filter_ne h)

/-- Removes the entry `name` of `parent`, and all below it. -/
def erase (fs : FileSystem) (name : FileName) (parent : Location) : FileSystem where
  entries := fs.entries.filter fun x => !(name :: parent).isSuffixOf x.1
  workingDirectory := fs.workingDirectory
  distinct := fs.distinct.sublist (List.filter_sublist.map _)
  rooted := by simp [fs.rooted]
  closed := by
    intro n p e h
    simp only [List.mem_filter, Bool.not_eq_true', Bool.eq_false_iff, ne_eq,
      List.isSuffixOf_iff_suffix] at h ⊢
    exact ⟨fs.closed h.1, fun hs => h.2 (hs.trans (List.suffix_cons n p))⟩

end FileSystem
end CrudForge
