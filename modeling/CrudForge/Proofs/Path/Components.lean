import CrudForge.Proofs.Path.Names

/-!
# Components of joined paths

A relative path behind a directory adds its own components to those of the directory, whatever the
directory looks like: relative, absolute, with idle parts or with slashes at its end. Names behind a
directory are therefore components of their own, one by one.
-/

namespace CrudForge.Path

/-- The components that the first part of a path names. An empty part is the root, unless it stands
alone. -/
def startComponents (first : String) (alone : Bool) : List Component :=
  if first = "" then (if alone then [] else [.root])
  else if first = "." then [.here]
  else (innerComponent? first).toList

/-- The first part counts in its own way, and all others alike. -/
theorem components_of_segments {p : Path} {first : String} {inner : List String}
    (h : p.segments = first :: inner) :
    p.components = startComponents first inner.isEmpty ++ inner.filterMap innerComponent? := by
  unfold components startComponents
  rw [h]
  split
  · simp_all
  · simp_all
  · rename_i rest hne heq
    obtain ⟨rfl, rfl⟩ := List.cons.inj heq
    have hrest : inner ≠ [] := fun hnil => hne (by rw [hnil])
    simp [hrest]
  · rename_i rest heq
    obtain ⟨rfl, rfl⟩ := List.cons.inj heq
    simp
  · rename_i hsingle hroot hhere
    have hfirst : first ≠ "" := fun hnil => hroot inner (by rw [hnil])
    have hdot : first ≠ "." := fun hdot => hhere inner (by rw [hdot])
    rw [if_neg hfirst, if_neg hdot, List.filterMap_cons]
    cases innerComponent? first <;> rfl

theorem exists_segments_eq (p : Path) : ∃ first inner, p.segments = first :: inner :=
  List.exists_cons_of_ne_nil (Text.cut_ne_nil '/' p.text)

/-- The first part of a path that has a text does not stand alone if it is empty. -/
theorem startComponents_of_segments {p : Path} {first : String} {inner : List String}
    (h : p.segments = first :: inner) (hne : p.text ≠ "") :
    startComponents first inner.isEmpty = startComponents first false := by
  unfold startComponents
  by_cases hfirst : first = ""
  · have hinner : inner ≠ [] := by
      rintro rfl
      refine hne ?_
      rw [← Text.join_cut '/' p.text, show Text.cut '/' p.text = _ from h, hfirst]
      rfl
    simp [hinner]
  · simp [hfirst]

/-- A relative path behind a directory adds what its parts name. -/
theorem components_join {base p : Path} (h : p.isAbsolute = false) (hbase : base.text ≠ "") :
    (base.join p).components = base.components ++ p.segments.filterMap innerComponent? := by
  unfold join
  rw [if_neg (by simp [h])]
  split
  · -- the empty part behind the slash gives way to the parts of `p`
    rename_i hslash
    rw [Bool.or_eq_true, decide_eq_true_eq] at hslash
    obtain ⟨a, ha⟩ := text_of_endsInSlash (hslash.resolve_left hbase)
    obtain ⟨first, inner, hsegments⟩ := exists_segments_eq ⟨a⟩
    have hold : base.segments = first :: (inner ++ [""]) := by
      have hcut := segments_slash a ""
      rw [hsegments] at hcut
      simpa [segments, ha] using hcut
    have hnew : segments ⟨base.text ++ p.text⟩ = first :: (inner ++ p.segments) := by
      rw [ha, segments_slash, hsegments, List.cons_append]
    rw [components_of_segments hold, components_of_segments hnew,
      startComponents_of_segments hold hbase,
      startComponents_of_segments hnew (by simp [hbase])]
    simp [innerComponent?, isIdle]
  · obtain ⟨first, inner, hsegments⟩ := exists_segments_eq base
    have hnew : segments ⟨base.text ++ "/" ++ p.text⟩ = first :: (inner ++ p.segments) := by
      rw [segments_slash, show segments ⟨base.text⟩ = _ from hsegments, List.cons_append]
    rw [components_of_segments hsegments, components_of_segments hnew,
      startComponents_of_segments hsegments hbase,
      startComponents_of_segments hnew (by simp [hbase])]
    simp

/-! ## Names -/

theorem innerComponent?_name (name : FileName) :
    innerComponent? name.text = some (.name name.text) := by
  have h := name.isFileName
  simp only [CrudForge.isFileName, Bool.and_eq_true, decide_eq_true_eq] at h
  simp [innerComponent?, isIdle, h.1.1.1, h.1.1.2, h.1.2]

theorem filterMap_innerComponent? (names : List FileName) :
    (names.map (·.text)).filterMap innerComponent? = names.map fun name => .name name.text := by
  rw [List.filterMap_map, ← List.filterMap_eq_map]
  exact congrArg (List.filterMap · names) (funext innerComponent?_name)

/-- The components of a path of names are the names. -/
theorem components_ofNames {names : List FileName} (h : names ≠ []) :
    (ofNames names).components = names.map fun name => .name name.text := by
  obtain ⟨name, rest, rfl⟩ := List.exists_cons_of_ne_nil h
  have hname := name.isFileName
  simp only [CrudForge.isFileName, Bool.and_eq_true, decide_eq_true_eq] at hname
  rw [components_of_segments (segments_ofNames h), filterMap_innerComponent?]
  simp [startComponents, hname.1.1.1, hname.1.1.2, innerComponent?_name]

/-- Names behind a directory are components of their own, even if its path is empty. -/
theorem components_join_ofNames {base : Path} {names : List FileName} (h : names ≠ []) :
    (base.join (ofNames names)).components =
      base.components ++ names.map fun name => .name name.text := by
  by_cases hbase : base.text = ""
  · obtain rfl : base = ⟨""⟩ := congrArg Path.mk hbase
    have hjoin : join ⟨""⟩ (ofNames names) = ofNames names := by
      simp [join, isAbsolute_ofNames]
    rw [hjoin, components_ofNames h]
    simp [components]
  · rw [components_join (isAbsolute_ofNames names) hbase, segments_ofNames h,
      filterMap_innerComponent?]

end CrudForge.Path
