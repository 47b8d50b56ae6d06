import CrudForge.Generation.Generator

/-!
# What is rendered

Artifacts that are rendered together are those that are rendered one by one, each of its own kind
and with the path of that kind. So they depend on nothing but the stub of each kind.
-/

namespace CrudForge

open FileSystem

theorem exists_eq_ok_of_isOk {ε α : Type} {result : Except ε α} (h : result.isOk = true) :
    ∃ a, result = .ok a := by
  cases result with
  | error e => simp [Except.isOk, Except.toBool] at h
  | ok a => exact ⟨a, rfl⟩

/-- A rendered artifact is of the wanted kind and has its path. -/
theorem renderKind_eq_ok {g : Generator} {fs : FileSystem} {kind : ArtifactKind} {a : Artifact}
    (h : g.renderKind fs kind = .ok a) : a.kind = kind ∧ a.path = g.path kind := by
  unfold Generator.renderKind at h
  split at h
  · simp at h
  · obtain rfl := Except.ok.inj h
    exact ⟨rfl, rfl⟩

theorem path_of_renderKind {g : Generator} {fs : FileSystem} {a : Artifact}
    (h : g.renderKind fs a.kind = .ok a) : a.path = g.path a.kind :=
  (renderKind_eq_ok h).2

/-- Artifacts are rendered together if they are of the wanted kinds and each is rendered alone. -/
theorem renderKinds_eq_ok {g : Generator} {fs : FileSystem} {kinds : List ArtifactKind}
    {artifacts : List Artifact} :
    g.renderKinds fs kinds = .ok artifacts ↔
      artifacts.map (·.kind) = kinds ∧ ∀ a ∈ artifacts, g.renderKind fs a.kind = .ok a := by
  induction kinds generalizing artifacts with
  | nil => cases artifacts <;> simp [Generator.renderKinds]
  | cons kind kinds ih =>
    rw [Generator.renderKinds]
    constructor
    · intro h
      split at h
      · simp at h
      · rename_i a hkind
        split at h
        · simp at h
        · rename_i rest hrest
          obtain rfl := Except.ok.inj h
          obtain ⟨hkinds, hall⟩ := ih.1 hrest
          obtain ⟨rfl, -⟩ := renderKind_eq_ok hkind
          exact ⟨by rw [List.map_cons, hkinds], List.forall_mem_cons.2 ⟨hkind, hall⟩⟩
    · rintro ⟨hkinds, hall⟩
      obtain ⟨a, rest, rfl, rfl, hrest⟩ := List.map_eq_cons_iff.1 hkinds
      obtain ⟨ha, hall⟩ := List.forall_mem_cons.1 hall
      simp [ha, ih.2 ⟨hrest, hall⟩]

/-- What is rendered is one artifact of each kind, in order. -/
theorem render_eq_ok {g : Generator} {fs : FileSystem} {artifacts : List Artifact} :
    g.render fs = .ok artifacts ↔
      artifacts.map (·.kind) = ArtifactKind.all ∧
        ∀ a ∈ artifacts, g.renderKind fs a.kind = .ok a :=
  renderKinds_eq_ok

/-- All artifacts that are rendered together are also rendered one by one. -/
theorem renderKind_of_mem {g : Generator} {fs : FileSystem} {artifacts : List Artifact}
    (h : g.render fs = .ok artifacts) : ∀ a ∈ artifacts, g.renderKind fs a.kind = .ok a :=
  (render_eq_ok.1 h).2

/-- The artifacts go to the paths of the kinds, in order. -/
theorem paths_of_render {g : Generator} {fs : FileSystem} {artifacts : List Artifact}
    (h : g.render fs = .ok artifacts) :
    artifacts.map (fun a => (a.kind, a.path)) =
      ArtifactKind.all.map fun kind => (kind, g.path kind) := by
  obtain ⟨hkinds, hall⟩ := render_eq_ok.1 h
  rw [← hkinds, List.map_map]
  refine List.map_congr_left fun a ha => ?_
  simp [path_of_renderKind (hall a ha)]

/-- Generators that render every kind alike render all alike. -/
theorem render_congr {g g' : Generator} {fs fs' : FileSystem}
    (h : ∀ kind, g'.renderKind fs' kind = g.renderKind fs kind) : g'.render fs' = g.render fs := by
  have hkinds (kinds : List ArtifactKind) : g'.renderKinds fs' kinds = g.renderKinds fs kinds := by
    induction kinds with
    | nil => rfl
    | cons kind kinds ih =>
      unfold Generator.renderKinds
      rw [h, ih]
  exact hkinds ArtifactKind.all

/-- A stub of a layered source depends on the file that comes first. -/
theorem load_layered_congr {fs fs' : FileSystem} {stubs : StubDirectory} {fallback : Bool}
    {name : String} (h : fs'.readText (stubs.file name) = fs.readText (stubs.file name)) :
    (StubSource.layered stubs fallback).load fs' name =
      (StubSource.layered stubs fallback).load fs name := by
  have hload : StubSource.loadFrom stubs fs' name = StubSource.loadFrom stubs fs name := by
    unfold StubSource.loadFrom
    rw [h]
  unfold StubSource.load
  simp only [hload]

end CrudForge
