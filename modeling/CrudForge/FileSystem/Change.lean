import CrudForge.FileSystem.Access

/-!
# Differences between file systems

The entries below the working directory that one file system has and another has not.
-/

namespace CrudForge

inductive Change
  | set (e : Entry)
  | removed

namespace FileSystem

/-- The entries below the working directory, in the order of their paths. -/
def listing (fs : FileSystem) : List (Path × Entry) :=
  (fs.entriesBelow fs.workingDirectory).mergeSort fun x y => x.1.text ≤ y.1.text

/-- What is new or different in `after`, and what it lacks, in the order of the paths. -/
def changes (before after : FileSystem) : List (Path × Change) :=
  let old := before.listing
  let new := after.listing
  let set := new.filterMap fun (p, e) => if old.lookup p = some e then none else some (p, .set e)
  let removed := old.filterMap fun (p, _) =>
    if (new.lookup p).isNone then some (p, .removed) else none
  (set ++ removed).mergeSort fun x y => x.1.text ≤ y.1.text

end FileSystem
end CrudForge
