import CrudForge.Generation.Generator
import CrudForge.Proofs.Naming.Plural
import CrudForge.Proofs.Path.Components

/-!
# The places of artifacts

Whatever a resource is called, its names are put into paths as they are: each artifact stands in its
directory, one or two ordinary names below it, and no two views stand in the same place. Neither the
directories nor the extensions have any part in this, as long as no extension holds a slash.

## Main definitions

* `Directories.holding` — the directory for the artifacts of a kind.
* `Extensions.parts` — the names that lead from there to the artifact.
* `Extensions.Proper` — extensions that lead nowhere else.
-/

namespace CrudForge

open Naming

/-! ## Names of files -/

/-- A name in lower case is a name of a file. -/
theorem isFileName_of_isLowerName {text : String} (h : isLowerName text.toList = true) :
    isFileName text = true := by
  have hchars := isLowerChar_of_mem h
  cases htext : text.toList with
  | nil => simp [htext, isLowerName] at h
  | cons c cs =>
    rw [htext, isLowerName_cons] at h
    refine isFileName_of_cons htext ?_ fun hslash => absurd (hchars _ hslash) (by decide)
    rintro rfl
    exact absurd h.1 (by decide)

/-- A class name with something behind it is a name of a file. -/
theorem isFileName_of_isClassName {text rest : String} (h : isClassName text = true)
    (hrest : '/' ∉ rest.toList) : isFileName (text ++ rest) = true := by
  unfold isClassName at h
  split at h
  · exact absurd h (by simp)
  · rename_i c cs hcs
    rw [Bool.and_eq_true, List.all_eq_true] at h
    obtain ⟨hc, hall⟩ := h
    have htext : (text ++ rest).toList = c :: (cs ++ rest.toList) := by simp [hcs]
    refine isFileName_of_cons htext ?_ ?_
    · rintro rfl
      exact absurd hc (by decide)
    · rw [String.toList_append, List.mem_append, hcs, not_or]
      exact ⟨fun hslash => absurd (hall _ hslash) (by decide), hrest⟩

theorem text_of_ofString {name : String} {resource : ResourceName}
    (h : ResourceName.ofString name = .ok resource) : resource.text = name := by
  unfold ResourceName.ofString at h
  split at h
  · exact (congrArg ResourceName.text (Except.ok.inj h)).symm
  · simp at h

/-! ## Places -/

/-- The directory for the artifacts of a kind, as seen from the root of a project. -/
def Directories.holding (directories : Directories) : ArtifactKind → Path
  | .model => directories.models
  | .controller => directories.controllers
  | .listView | .createView | .editView => directories.views

namespace Extensions

variable {extensions : Extensions}

/-- The names behind its directory that lead to the artifact of a kind. -/
def parts (extensions : Extensions) (resource : String) : ArtifactKind → List String
  | .model => [resource ++ "." ++ extensions.source]
  | .controller => [resource ++ "Controller" ++ "." ++ extensions.source]
  | .listView => [plural resource, "index" ++ "." ++ extensions.view]
  | .createView => [plural resource, "create" ++ "." ++ extensions.view]
  | .editView => [plural resource, "edit" ++ "." ++ extensions.view]

/-- No slash in the extensions of artifacts. -/
structure Proper (extensions : Extensions) : Prop where
  source : '/' ∉ extensions.source.toList
  view : '/' ∉ extensions.view.toList

namespace Proper

theorem isFileName_of_mem_parts (h : extensions.Proper) (resource : ResourceName)
    (kind : ArtifactKind) :
    ∀ part ∈ extensions.parts resource.text kind, isFileName part = true := by
  have hplural := isFileName_of_isLowerName (isLowerName_plural resource.isClassName)
  have hview (view : String) (c : Char) (cs : List Char) (hcs : view.toList = c :: cs)
      (hdot : c ≠ '.') (hslash : '/' ∉ view.toList) :
      isFileName (view ++ "." ++ extensions.view) = true := by
    have hchars : (view ++ "." ++ extensions.view).toList =
        c :: (cs ++ '.' :: extensions.view.toList) := by simp [hcs]
    exact isFileName_of_cons hchars hdot (by simp [hslash, h.view])
  intro part hpart
  cases kind with
  | model =>
    obtain rfl := List.mem_singleton.1 hpart
    rw [String.append_assoc]
    exact isFileName_of_isClassName resource.isClassName (by simp [h.source])
  | controller =>
    obtain rfl := List.mem_singleton.1 hpart
    rw [String.append_assoc, String.append_assoc]
    exact isFileName_of_isClassName resource.isClassName (by simp [h.source])
  | listView =>
    rcases List.mem_pair.1 hpart with rfl | rfl
    · exact hplural
    · exact hview "index" 'i' "ndex".toList rfl (by decide) (by decide)
  | createView =>
    rcases List.mem_pair.1 hpart with rfl | rfl
    · exact hplural
    · exact hview "create" 'c' "reate".toList rfl (by decide) (by decide)
  | editView =>
    rcases List.mem_pair.1 hpart with rfl | rfl
    · exact hplural
    · exact hview "edit" 'e' "dit".toList rfl (by decide) (by decide)

/-- The names that lead to the artifact of a kind. -/
def names (h : extensions.Proper) (resource : ResourceName) (kind : ArtifactKind) :
    List FileName :=
  (extensions.parts resource.text kind).pmap FileName.mk (h.isFileName_of_mem_parts resource kind)

theorem map_text_names (h : extensions.Proper) (resource : ResourceName) (kind : ArtifactKind) :
    (h.names resource kind).map (·.text) = extensions.parts resource.text kind := by
  rw [names, List.map_pmap]
  exact List.pmap_eq_self.2 fun _ _ => rfl

theorem names_ne_nil (h : extensions.Proper) (resource : ResourceName) (kind : ArtifactKind) :
    h.names resource kind ≠ [] := by
  cases kind <;> exact List.cons_ne_nil _ _

end Proper

end Extensions

section Path

variable {resource : ResourceName} {fields : FieldList} {root : Path} {settings : Settings}
  {stubs : StubSource}

/-- An artifact goes to its directory and then along its names. -/
theorem path_eq (h : settings.extensions.Proper) (kind : ArtifactKind) :
    Generator.path ⟨resource, fields, .of root settings, stubs⟩ kind =
      (root.join (settings.directories.holding kind)).join (.ofNames (h.names resource kind)) := by
  have hplural := isFileName_of_isLowerName (isLowerName_plural resource.isClassName)
  have hview (view : String)
      (hfile : isFileName (view ++ "." ++ settings.extensions.view) = true) :
      (Layout.of root settings).viewFile resource.text view =
        (root.join settings.directories.views).join
          (.ofNames [⟨plural resource.text, hplural⟩, ⟨_, hfile⟩]) :=
    @Path.join_join_ofNames _ [⟨plural resource.text, hplural⟩] [⟨_, hfile⟩] (by simp) (by simp)
  unfold Extensions.Proper.names
  cases kind with
  | model => rfl
  | controller => rfl
  | listView => exact hview "index" _
  | createView => exact hview "create" _
  | editView => exact hview "edit" _

theorem components_eq (h : settings.extensions.Proper) (kind : ArtifactKind) :
    (Generator.path ⟨resource, fields, .of root settings, stubs⟩ kind).components =
      (root.join (settings.directories.holding kind)).components ++
        (settings.extensions.parts resource.text kind).map .name := by
  rw [path_eq h, Path.components_join_ofNames (h.names_ne_nil resource kind),
    ← h.map_text_names, List.map_map]
  rfl

/-- The names that go into paths are plain, so each artifact is where it belongs: its path has the
components of its directory and behind them names alone, and no two views have the same. -/
theorem components_path {name : String} {resource : ResourceName}
    (haccepted : ResourceName.ofString name = .ok resource) (hproper : settings.extensions.Proper)
    (root : Path) (fields : FieldList) (stubs : StubSource) :
    (isLowerName (singular name).toList = true ∧ isLowerName (plural name).toList = true) ∧
    (∀ kind, (Generator.path ⟨resource, fields, .of root settings, stubs⟩ kind).components =
        (root.join (settings.directories.holding kind)).components ++
          (settings.extensions.parts name kind).map .name ∧
      ∀ part ∈ settings.extensions.parts name kind, isFileName part = true) ∧
    ([.listView, .createView, .editView].map fun kind =>
      (Generator.path ⟨resource, fields, .of root settings, stubs⟩ kind).components).Nodup := by
  obtain rfl := text_of_ofString haccepted
  refine ⟨⟨isLowerName_singular resource.isClassName, isLowerName_plural resource.isClassName⟩,
    fun kind => ⟨components_eq hproper kind, hproper.isFileName_of_mem_parts resource kind⟩, ?_⟩
  simp only [components_eq hproper]
  simp [Extensions.parts, Directories.holding, ← String.toList_inj]

end Path

namespace Places

/-- Settings that lead up, to an absolute directory, and to the root itself, with bare dots as
extensions. -/
def settings : Settings :=
  { Settings.standard with
    directories :=
      { models := ⟨"../.././/m/"⟩, controllers := ⟨"/c"⟩, views := ⟨""⟩, routes := ⟨"."⟩
        stubs := ⟨""⟩ }
    extensions := { source := "", view := ".", stub := "" } }

end Places

theorem components_path_leading_up :
    ∃ resource, ResourceName.ofString "Analysis" = .ok resource ∧
      Places.settings.extensions.Proper ∧
      (Generator.path ⟨resource, .empty, .of ⟨"./srv//"⟩ Places.settings, .builtin⟩
        .model).components =
          [.here, .name "srv", .up, .up, .name "m", .name "Analysis."] ∧
      (Generator.path ⟨resource, .empty, .of ⟨"./srv//"⟩ Places.settings, .builtin⟩
        .editView).components =
          [.here, .name "srv", .name "analyses", .name "edit.."] := by
  have haccepted : ResourceName.ofString "Analysis" = .ok ⟨"Analysis", by decide⟩ := by rfl
  have hproper : Places.settings.extensions.Proper := ⟨by decide, by decide⟩
  obtain ⟨-, hcomponents, -⟩ :=
    components_path haccepted hproper ⟨"./srv//"⟩ .empty .builtin
  refine ⟨_, haccepted, hproper, (hcomponents .model).1.trans ?_,
    (hcomponents .editView).1.trans ?_⟩
  · decide
  · decide

end CrudForge
