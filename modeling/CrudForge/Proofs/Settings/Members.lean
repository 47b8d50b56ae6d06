import CrudForge.Proofs.Settings.Load
import Mathlib.Data.List.TakeWhile

/-!
# Members of sections

A setting is a member of a section. Where every source has tables for its sections, a stack of
sources gives each setting the value of the first source that sets it, and the settings are picked
from these values alone.

## Main definitions

* `Value.setting?` — what a source says about a setting.
* `Value.IsSectioned` — all sections of a source are tables.
* `Settings.toValue` — settings as a source of their own.
-/

namespace CrudForge.Settings

/-! ## Settings in a source -/

theorem Section.mem_all (s : Section) : s ∈ Section.all := by
  cases s <;> decide

namespace Expectation

variable {v : Value}

/-- A table is admitted as a section. -/
theorem admits_of_isTable (s : Section) (h : v.isTable = true) :
    s.expectation.admits v = true := by
  cases v with
  | table members => cases s <;> rfl
  | _ => cases h

end Expectation

namespace Value

/-- What a source says about a member of a section. -/
def setting? (v : Value) (s : Section) (name : String) : Option Value :=
  (v.member? s.key).bind (·.member? name)

/-- Every section that the source has is a table. -/
def IsSectioned (v : Value) : Prop :=
  ∀ s ∈ Section.all, (v.member? s.key).all (·.isTable) = true

instance (v : Value) : Decidable v.IsSectioned :=
  inferInstanceAs (Decidable (∀ s ∈ Section.all, (v.member? s.key).all (·.isTable) = true))

theorem IsSectioned.isTable {v inner : Value} (h : v.IsSectioned) {s : Section}
    (hmember : v.member? s.key = some inner) : inner.isTable = true := by
  have hall := h s s.mem_all
  rwa [hmember] at hall

end Value

/-- Settings as a source that sets all of them. -/
def toValue (settings : Settings) : Value :=
  .table
    [(Section.directories.key, .table
        [("models_dir", .text settings.directories.models.text),
         ("controllers_dir", .text settings.directories.controllers.text),
         ("views_dir", .text settings.directories.views.text),
         ("routes_dir", .text settings.directories.routes.text),
         ("stubs_dir", .text settings.directories.stubs.text)]),
     (Section.extensions.key, .table
        [("source", .text settings.extensions.source),
         ("view", .text settings.extensions.view),
         ("stub", .text settings.extensions.stub)]),
     (Section.behaviour.key, .table
        [("strict_types", .truth settings.behaviour.strictKinds),
         ("embedded_fallback", .truth settings.behaviour.builtinFallback)])]

section Settings

variable {s : Section} {name : String}

/-- Settings set each of their members, to a value of the right type. -/
theorem admits_toValue (settings : Settings) (h : name ∈ s.members) :
    ∃ v, settings.toValue.setting? s name = some v ∧ s.memberExpectation.admits v = true := by
  cases s with
  | directories =>
    simp only [Section.members, List.mem_cons, List.not_mem_nil, or_false] at h
    obtain rfl | rfl | rfl | rfl | rfl := h <;> exact ⟨_, rfl, rfl⟩
  | extensions =>
    simp only [Section.members, List.mem_cons, List.not_mem_nil, or_false] at h
    obtain rfl | rfl | rfl := h <;> exact ⟨_, rfl, rfl⟩
  | behaviour =>
    simp only [Section.members, List.mem_cons, List.not_mem_nil, or_false] at h
    obtain rfl | rfl := h <;> exact ⟨_, rfl, rfl⟩

theorem isSectioned_toValue (settings : Settings) : settings.toValue.IsSectioned := by
  intro s hs
  cases s <;> rfl

end Settings

/-! ## Settings in a stack -/

section Stack

variable {s : Section} {sources : Stack} {name : String}

/-- A member is of the right type if its value is, or if it has none. -/
theorem isNone_memberMismatch? :
    (s.memberMismatch? sources name).isNone ↔
      ∀ v, s.value? sources name = some v → s.memberExpectation.admits v = true := by
  unfold Section.memberMismatch? Section.value?
  cases s.find? sources name with
  | none => simp
  | some found =>
    cases h : s.memberExpectation.admits found.2.value with
    | true => simp [h]
    | false => simp [h]

/-- Members of tables are found source by source. -/
theorem Stack.member_eq (h : ∀ source ∈ sources, source.value.isTable = true) (key : String) :
    sources.member key = sources.filterMap fun source =>
      (source.value.member? key).map (⟨source.origin, ·⟩) := by
  rw [Stack.member, List.takeWhile_eq_self_iff.2 h]

theorem Section.find?_eq (h : ∀ inner ∈ s.stack sources, inner.value.isTable = true) :
    s.find? sources name = ((s.stack sources).member name).head?.map (name, ·) := by
  unfold find?
  split
  · rename_i heq
    have hlist := h _ (heq ▸ List.mem_cons_self)
    simp [Value.isTable] at hlist
  · rfl

/-- Tables with tables for their sections, one over the other. -/
structure Stack.IsSectioned (sources : Stack) : Prop where
  isTable : ∀ source ∈ sources, source.value.isTable = true
  isSectioned : ∀ source ∈ sources, source.value.IsSectioned

theorem Stack.IsSectioned.isTable_stack (h : sources.IsSectioned) (s : Section) :
    ∀ inner ∈ s.stack sources, inner.value.isTable = true := by
  intro inner hinner
  rw [Section.stack, Stack.member_eq h.isTable, List.mem_filterMap] at hinner
  obtain ⟨source, hsource, hmember⟩ := hinner
  obtain ⟨v, hv, rfl⟩ := Option.map_eq_some_iff.1 hmember
  exact (h.isSectioned source hsource).isTable hv

/-- The first source that sets a member decides. -/
theorem Stack.IsSectioned.value?_eq (h : sources.IsSectioned) (s : Section) (name : String) :
    s.value? sources name = (sources.map (·.value)).findSome? (·.setting? s name) := by
  rw [Section.value?, Section.find?_eq (h.isTable_stack s), Stack.member_eq (h.isTable_stack s),
    Section.stack, Stack.member_eq h.isTable]
  rw [List.filterMap_filterMap, List.head?_filterMap, Option.map_map, List.map_findSome?,
    List.findSome?_map]
  congr 1
  funext source
  cases hmember : source.value.member? s.key with
  | none => simp [Value.setting?, hmember]
  | some inner =>
    cases hinner : inner.member? name <;> simp [Value.setting?, hmember, hinner]

/-- All values of tables with tables count by their members only. -/
theorem Stack.IsSectioned.admitted_iff (h : sources.IsSectioned) :
    Admitted sources ↔ ∀ s, ∀ name ∈ Section.members s, ∀ v,
      s.value? sources name = some v → s.memberExpectation.admits v = true := by
  have hown : ∀ s : Section, (s.ownMismatch? sources).isNone := by
    intro s
    unfold Section.ownMismatch?
    split
    · rfl
    · rename_i top rest heq
      have htable := h.isTable_stack s top (heq ▸ List.mem_cons_self)
      simp [Expectation.admits_of_isTable s htable]
  simp only [Admitted, hown, true_and, isNone_memberMismatch?]
  exact ⟨fun hall s => hall s s.mem_all, fun hall s _ => hall s⟩

/-- Only the values of the members are picked. -/
theorem pick_congr {others : Stack} (h : ∀ s, ∀ name ∈ Section.members s,
    s.value? sources name = s.value? others name) : pick sources = pick others := by
  have hdirectories := h .directories
  have hextensions := h .extensions
  have hbehaviour := h .behaviour
  simp only [Section.members, List.forall_mem_cons] at hdirectories hextensions hbehaviour
  simp only [pick, Section.path?, Section.text?, Section.truth?, hdirectories, hextensions,
    hbehaviour]

theorem pick_toValue (settings : Settings) : pick [⟨.environment, settings.toValue⟩] = settings :=
  rfl

/-- Settings are told by their members. -/
theorem eq_of_setting? {settings other : Settings}
    (h : ∀ s, ∀ name ∈ Section.members s,
      settings.toValue.setting? s name = other.toValue.setting? s name) :
    settings = other := by
  have hsectioned : ∀ settings : Settings,
      Stack.IsSectioned [⟨.environment, settings.toValue⟩] := fun settings =>
    ⟨by simp [toValue, Value.isTable], by simpa using isSectioned_toValue settings⟩
  rw [← pick_toValue settings, ← pick_toValue other]
  refine pick_congr fun s name hname => ?_
  rw [(hsectioned settings).value?_eq, (hsectioned other).value?_eq]
  simp [h s name hname]

/-- What `read` takes out of a member and `wrap` makes a value of again is the value that counts,
or else the standard one. -/
theorem wrap_getD_value? {α : Type} {read : Value → Option α} {wrap : α → Value}
    (h : ∀ v, s.value? sources name = some v → s.memberExpectation.admits v = true)
    (hread : ∀ v, s.memberExpectation.admits v = true → (read v).map wrap = some v)
    (fallback : α) :
    some (wrap (((s.value? sources name).bind read).getD fallback)) =
      (s.value? sources name).or (some (wrap fallback)) := by
  cases hvalue : s.value? sources name with
  | none => rfl
  | some v =>
    obtain ⟨a, ha, rfl⟩ := Option.map_eq_some_iff.1 (hread v (h v hvalue))
    simp [ha]

/-- What is picked is the value that counts, or else the standard one. -/
theorem setting?_pick (hname : name ∈ s.members)
    (h : ∀ v, s.value? sources name = some v → s.memberExpectation.admits v = true) :
    (pick sources).toValue.setting? s name =
      (s.value? sources name).or (standard.toValue.setting? s name) := by
  cases s with
  | directories =>
    have hread : ∀ v, Expectation.path.admits v = true → v.text?.map .text = some v
      | .text _, _ => rfl
    have hpath : ∀ fallback : Path,
        some (Value.text ((Section.directories.path? sources name).getD fallback).text) =
          (Section.directories.value? sources name).or (some (.text fallback.text)) := by
      intro fallback
      rw [← wrap_getD_value? h hread, Section.path?, Section.text?]
      cases (Section.directories.value? sources name).bind Value.text? <;> rfl
    simp only [Section.members, List.mem_cons, List.not_mem_nil, or_false] at hname
    obtain rfl | rfl | rfl | rfl | rfl := hname <;> exact hpath _
  | extensions =>
    have hread : ∀ v, Expectation.text.admits v = true → v.text?.map .text = some v
      | .text _, _ => rfl
    simp only [Section.members, List.mem_cons, List.not_mem_nil, or_false] at hname
    obtain rfl | rfl | rfl := hname <;> exact wrap_getD_value? h hread _
  | behaviour =>
    have hread : ∀ v, Expectation.boolean.admits v = true → v.truth?.map .truth = some v
      | .truth _, _ => rfl
    simp only [Section.members, List.mem_cons, List.not_mem_nil, or_false] at hname
    obtain rfl | rfl := hname <;> exact wrap_getD_value? h hread _

end Stack

end CrudForge.Settings
