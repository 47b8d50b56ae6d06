import CrudForge.Settings.Load

/-!
# When sources give settings

Sources give settings if every value that counts is of the right type. The order in which the values
are read only decides which mismatch is told.

## Main definitions

* `Settings.Admitted` — sources without a value of the wrong type.
-/

namespace CrudForge.Settings

/-- No section and no member of one is of the wrong type. -/
def Admitted (sources : Stack) : Prop :=
  ∀ s ∈ Section.all, (s.ownMismatch? sources).isNone ∧
    ∀ name ∈ s.members, (s.memberMismatch? sources name).isNone

instance (sources : Stack) : Decidable (Admitted sources) :=
  inferInstanceAs (Decidable (∀ s ∈ Section.all, (s.ownMismatch? sources).isNone ∧
    ∀ name ∈ s.members, (s.memberMismatch? sources name).isNone))

theorem mem_readingOrder {s : Section} {sources : Stack} {name : String} :
    name ∈ s.readingOrder sources ↔ name ∈ s.members := by
  unfold Section.readingOrder
  split
  · exact Iff.rfl
  · exact List.mem_mergeSort

theorem mismatches_eq_nil {sources : Stack} : mismatches sources = [] ↔ Admitted sources := by
  simp only [mismatches, Section.mismatches, Admitted, List.flatMap_eq_nil_iff,
    List.append_eq_nil_iff, Option.toList_eq_nil_iff, List.filterMap_eq_nil_iff, mem_readingOrder,
    Option.isNone_iff_eq_none]

/-- Sources give settings exactly if all their values are admitted. -/
theorem ofStack_eq_ok {sources : Stack} {settings : Settings} :
    ofStack sources = .ok settings ↔ Admitted sources ∧ settings = pick sources := by
  rw [← mismatches_eq_nil]
  unfold ofStack
  cases mismatches sources with
  | nil => simp [eq_comm]
  | cons mismatch rest => simp

/-- Without a file of settings the environment alone counts. -/
theorem load_of_noFile {fs : FileSystem} {env : Environment} {root : Path}
    (h : fs.isFile (projectFile root) = false) :
    load fs env root none = resolve [⟨.environment, env.settings⟩] (.ok []) := by
  simp [load, readSources, readSource, h]

theorem resolve_of_admitted {above : Stack} (h : Admitted above) :
    resolve above (.ok []) = .ok (pick above) := by
  have hstack : ofStack above = .ok (pick above) := ofStack_eq_ok.2 ⟨h, rfl⟩
  simp [resolve, hstack]

/-- Variables that are admitted give the settings of a project without a file of settings. -/
theorem load_of_environment {fs : FileSystem} {env : Environment} {root : Path}
    (hfile : fs.isFile (projectFile root) = false)
    (hadmitted : Admitted [⟨.environment, env.settings⟩]) :
    load fs env root none = .ok (pick [⟨.environment, env.settings⟩]) := by
  rw [load_of_noFile hfile, resolve_of_admitted hadmitted]

end CrudForge.Settings
