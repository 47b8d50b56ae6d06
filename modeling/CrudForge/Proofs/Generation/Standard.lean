import CrudForge.Proofs.FileSystem.Region
import CrudForge.Proofs.Generation.Places
import CrudForge.Proofs.Generation.Render

/-!
# The standard places

With the standard settings all files of a resource have places of their own behind the root. The
places of different files differ, whatever the resources are called, and none of them is the route
file or lies in the directory of the stubs.

## Main definitions

* `Standard.place`, `routePlace`, `stubWay` — where files, routes and stubs stand behind the root.
* `Standard.Call` — a resource to generate in a project that sets nothing.
-/

namespace CrudForge

open FileSystem

namespace Standard

/-- The name of the file of the model. -/
def modelName (resource : ResourceName) : FileName :=
  ⟨resource.text ++ ("." ++ "php"), isFileName_of_isClassName resource.isClassName (by decide)⟩

/-- The name of the file of the controller. -/
def controllerName (resource : ResourceName) : FileName :=
  ⟨resource.text ++ ("Controller" ++ "." ++ "php"),
    isFileName_of_isClassName resource.isClassName (by decide)⟩

/-- The name of the directory of the views. -/
def viewsName (resource : ResourceName) : FileName :=
  ⟨Naming.plural resource.text,
    isFileName_of_isLowerName (Naming.isLowerName_plural resource.isClassName)⟩

/-- The place of a file of a resource, from the root of the project. -/
def place (resource : ResourceName) : ArtifactKind → List FileName
  | .model => [⟨"app", by decide⟩, ⟨"Models", by decide⟩, modelName resource]
  | .controller =>
    [⟨"app", by decide⟩, ⟨"Http", by decide⟩, ⟨"Controllers", by decide⟩, controllerName resource]
  | .listView =>
    [⟨"resources", by decide⟩, ⟨"views", by decide⟩, viewsName resource,
      ⟨"index.blade.php", by decide⟩]
  | .createView =>
    [⟨"resources", by decide⟩, ⟨"views", by decide⟩, viewsName resource,
      ⟨"create.blade.php", by decide⟩]
  | .editView =>
    [⟨"resources", by decide⟩, ⟨"views", by decide⟩, viewsName resource,
      ⟨"edit.blade.php", by decide⟩]

/-- The place of the route file. -/
def routePlace : List FileName :=
  [⟨"routes", by decide⟩, ⟨"web.php", by decide⟩]

/-- The place of the directory of the stubs. -/
def stubWay : List FileName :=
  [⟨"resources", by decide⟩, ⟨"stubs", by decide⟩]

/-- The place of a stub in that directory. -/
def stubPlace : ArtifactKind → List FileName
  | .model => [⟨"Model.stub", by decide⟩]
  | .controller => [⟨"Controller.stub", by decide⟩]
  | .listView => [⟨"views", by decide⟩, ⟨"index.stub", by decide⟩]
  | .createView => [⟨"views", by decide⟩, ⟨"create.stub", by decide⟩]
  | .editView => [⟨"views", by decide⟩, ⟨"edit.stub", by decide⟩]

/-- The files with an empty stub of each kind behind the working directory. -/
def withStubs (fs : FileSystem) : FileSystem :=
  let directory := (fs.createDirectories (.ofNames stubWay)).2
  let inside := directory.within (stubWay.reverse ++ fs.workingDirectory)
  (ArtifactKind.all.foldl (fun fs kind => (fs.storeText (.ofNames (stubPlace kind)) "").2)
    inside).within fs.workingDirectory

theorem place_ne_nil (resource : ResourceName) (kind : ArtifactKind) :
    place resource kind ≠ [] := by
  cases kind <;> simp [place]

theorem routePlace_ne_nil : routePlace ≠ [] := by
  simp [routePlace]

theorem stubWay_ne_nil : stubWay ≠ [] := by
  simp [stubWay]

theorem stubPlace_ne_nil (kind : ArtifactKind) : stubPlace kind ≠ [] := by
  cases kind <;> simp [stubPlace]

/-- Files of different kinds have different places. -/
theorem kind_of_place {resource resource' : ResourceName} {kind kind' : ArtifactKind}
    (h : place resource kind = place resource' kind') : kind = kind' := by
  cases kind <;> cases kind' <;> simp_all [place]

theorem place_ne_routePlace (resource : ResourceName) (kind : ArtifactKind) :
    place resource kind ≠ routePlace := by
  cases kind <;> simp [place, routePlace]

theorem apart_place (resource : ResourceName) (kind : ArtifactKind) :
    Apart (place resource kind) stubWay := by
  cases kind <;> simp [Apart, place, stubWay, List.cons_prefix_cons]

theorem apart_routePlace : Apart routePlace stubWay := by
  simp [Apart, routePlace, stubWay, List.cons_prefix_cons]

/-! ## Calls -/

/-- A resource to generate in a project that sets nothing. -/
structure Call where
  resource : ResourceName
  fields : FieldList
  fallback : Bool

/-- The route file of the project at `root`. -/
def routeFile (root : Path) : Path :=
  (Layout.of root .standard).routeFile

/-- The generator for the call in the project at `root`. -/
def Call.generator (call : Call) (root : Path) : Generator where
  resource := call.resource
  fields := call.fields
  layout := .of root .standard
  stubs := .layered (.of root .standard) call.fallback

section Paths

variable (call : Call) (root : Path)

theorem routeFile_eq : routeFile root = root.join (.ofNames routePlace) := by
  have hdirectory : (⟨"routes"⟩ : Path) = .ofNames [⟨"routes", by decide⟩] := rfl
  have hfile : (⟨"web." ++ "php"⟩ : Path) = .ofNames [⟨"web.php", by decide⟩] := rfl
  change (root.join ⟨"routes"⟩).join ⟨"web." ++ "php"⟩ = _
  rw [hdirectory, hfile, Path.join_join_ofNames (by simp) (by simp)]
  rfl

theorem proper_extensions : Settings.standard.extensions.Proper :=
  ⟨by decide, by decide⟩

/-- A place is that of the directory and then the names in it. -/
theorem exists_place_eq (resource : ResourceName) (kind : ArtifactKind) :
    ∃ way, way ≠ [] ∧ Settings.standard.directories.holding kind = .ofNames way ∧
      place resource kind = way ++ proper_extensions.names resource kind := by
  cases kind with
  | model =>
    refine ⟨[⟨"app", by decide⟩, ⟨"Models", by decide⟩], by simp, rfl, ?_⟩
    exact congrArg ([_, _, ·]) (FileName.eq_of_text (String.append_assoc ..).symm)
  | controller =>
    refine ⟨[⟨"app", by decide⟩, ⟨"Http", by decide⟩, ⟨"Controllers", by decide⟩], by simp, rfl, ?_⟩
    have htext : resource.text ++ ("Controller" ++ "." ++ "php") =
        resource.text ++ "Controller" ++ "." ++ "php" := by
      simp only [String.append_assoc]
    exact congrArg ([_, _, _, ·]) (FileName.eq_of_text htext)
  | listView => exact ⟨[⟨"resources", by decide⟩, ⟨"views", by decide⟩], by simp, rfl, rfl⟩
  | createView => exact ⟨[⟨"resources", by decide⟩, ⟨"views", by decide⟩], by simp, rfl, rfl⟩
  | editView => exact ⟨[⟨"resources", by decide⟩, ⟨"views", by decide⟩], by simp, rfl, rfl⟩

/-- The artifacts go to their places. -/
theorem path_generator (kind : ArtifactKind) :
    (call.generator root).path kind = root.join (.ofNames (place call.resource kind)) := by
  obtain ⟨way, hway, hdirectory, hplace⟩ := exists_place_eq call.resource kind
  rw [Call.generator, path_eq proper_extensions, hdirectory, hplace,
    Path.join_join_ofNames hway (proper_extensions.names_ne_nil _ _)]

/-- The stubs are in their directory. -/
theorem stubFile_eq (kind : ArtifactKind) :
    (StubDirectory.of root .standard).file kind.stubName =
      root.join (.ofNames (stubWay ++ stubPlace kind)) := by
  have hdirectory : (⟨"resources/stubs"⟩ : Path) = .ofNames stubWay := rfl
  have hfile : (⟨kind.stubName ++ "." ++ "stub"⟩ : Path) = .ofNames (stubPlace kind) := by
    cases kind <;> rfl
  change (root.join ⟨"resources/stubs"⟩).join ⟨kind.stubName ++ "." ++ "stub"⟩ = _
  rw [hdirectory, hfile, Path.join_join_ofNames stubWay_ne_nil (stubPlace_ne_nil kind)]

end Paths

/-! ## Targets -/

section Targets

variable {fs fs' : FileSystem} {root : Path} {call call' : Call} {kind kind' : ArtifactKind}

theorem target_path :
    fs.target ((call.generator root).path kind) =
      (place call.resource kind).reverse ++ fs.target root := by
  rw [path_generator, target_join_ofNames (place_ne_nil _ _)]

theorem target_routeFile :
    fs.target (routeFile root) = routePlace.reverse ++ fs.target root := by
  rw [routeFile_eq, target_join_ofNames routePlace_ne_nil]

/-- Artifacts with the same target have the same path, and are of the same kind. -/
theorem path_eq_of_target
    (h : fs.target ((call.generator root).path kind) =
      fs.target ((call'.generator root).path kind')) :
    (call.generator root).path kind = (call'.generator root).path kind' ∧ kind = kind' := by
  rw [target_path, target_path, List.append_left_inj, List.reverse_inj] at h
  exact ⟨by rw [path_generator, path_generator, h], kind_of_place h⟩

theorem target_path_ne_routeFile :
    fs.target ((call.generator root).path kind) ≠ fs.target (routeFile root) := by
  rw [target_path, target_routeFile, Ne, List.append_left_inj, List.reverse_inj]
  exact place_ne_routePlace _ _

end Targets

/-! ## Rendering -/

section Render

variable {fs fs' : FileSystem} {root : Path}

/-- What is rendered depends on the directory of the stubs alone. -/
theorem renderKind_eq (call : Call) (hroot : fs.isDirectory root = true)
    (h : Undisturbed fs fs' (stubWay.reverse ++ fs.target root)) (kind : ArtifactKind) :
    (call.generator root).renderKind fs' kind = (call.generator root).renderKind fs kind := by
  have hshort : ∀ name ∈ stubWay, name.isTooLong = false := by decide
  have hread : fs'.readText ((StubDirectory.of root .standard).file kind.stubName) =
      fs.readText ((StubDirectory.of root .standard).file kind.stubName) := by
    have hne : stubWay ++ stubPlace kind ≠ [] := List.append_ne_nil_of_left_ne_nil stubWay_ne_nil _
    rw [stubFile_eq, h.readText_eq hroot hshort hne]
  unfold Generator.renderKind StubSource.render
  rw [Call.generator, load_layered_congr hread]

theorem render_eq (call : Call) (hroot : fs.isDirectory root = true)
    (h : Undisturbed fs fs' (stubWay.reverse ++ fs.target root)) :
    (call.generator root).render fs' = (call.generator root).render fs :=
  render_congr (renderKind_eq call hroot h)

end Render

end Standard
end CrudForge
