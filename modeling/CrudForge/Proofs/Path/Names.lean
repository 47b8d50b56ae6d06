import CrudForge.Proofs.FileSystem.Writes

/-!
# Paths of names

A path that is made of names alone leads straight down: behind a directory it has one target, and
different names have different targets.

## Main definitions

* `Path.ofNames` — the path of names, one below the other.
-/

namespace CrudForge

/-- A name with a first character that is no dot, and no slash anywhere. -/
theorem isFileName_of_cons {text : String} {c : Char} {cs : List Char}
    (htext : text.toList = c :: cs) (hdot : c ≠ '.') (hslash : '/' ∉ text.toList) :
    isFileName text = true := by
  have hne : ∀ other : String, other.toList.head? ≠ some c → text ≠ other := by
    rintro other hother rfl
    simp [htext] at hother
  have hempty : text ≠ "" := hne _ (by simp)
  have hhere : text ≠ "." := hne _ (by simpa using hdot.symm)
  have hup : text ≠ ".." := hne _ (by simpa using hdot.symm)
  simp [isFileName, hempty, hhere, hup, hslash]

theorem FileName.eq_of_text {a b : FileName} (h : a.text = b.text) : a = b := by
  cases a
  cases b
  simpa using h

namespace Path

/-- The path of the names, one below the other. -/
def ofNames (names : List FileName) : Path :=
  ⟨Text.join "/" (names.map (·.text))⟩

theorem slash_notMem (name : FileName) : '/' ∉ name.text.toList := by
  have h := name.isFileName
  simp only [CrudForge.isFileName, Bool.and_eq_true, Bool.not_eq_true', List.contains_eq_mem,
    decide_eq_false_iff_not] at h
  exact h.2

theorem text_ne_empty (name : FileName) : name.text ≠ "" := by
  have h := name.isFileName
  simp only [CrudForge.isFileName, Bool.and_eq_true, decide_eq_true_eq] at h
  exact h.1.1.1

@[simp] theorem ofSegment?_name (name : FileName) :
    Step.ofSegment? name.text = some (.down name) := by
  have h := name.isFileName
  simp only [CrudForge.isFileName, Bool.and_eq_true, decide_eq_true_eq] at h
  simp [Step.ofSegment?, h.1.1.2, h.1.2, name.isFileName]

theorem segments_ofNames {names : List FileName} (h : names ≠ []) :
    (ofNames names).segments = names.map (·.text) := by
  refine Text.cut_join (by simpa using h) fun piece hpiece => ?_
  obtain ⟨name, -, rfl⟩ := List.mem_map.1 hpiece
  exact slash_notMem name

theorem steps_ofNames {names : List FileName} (h : names ≠ []) :
    (ofNames names).steps = names.map .down := by
  rw [steps, segments_ofNames h, List.filterMap_map, ← List.filterMap_eq_map]
  exact congrArg (List.filterMap · names) (funext ofSegment?_name)

theorem isAbsolute_ofNames (names : List FileName) : (ofNames names).isAbsolute = false := by
  cases names with
  | nil => simp [ofNames, isAbsolute, Text.join]
  | cons name names =>
    rw [ofNames, List.map_cons, isAbsolute_join_parts _ (slash_notMem name)]
    simp [text_ne_empty]

theorem text_ofNames_ne_empty {names : List FileName} (h : names ≠ []) :
    (ofNames names).text ≠ "" := by
  intro hempty
  obtain ⟨name, rest, rfl⟩ := List.exists_cons_of_ne_nil h
  have hsegments := segments_ofNames h
  rw [segments, hempty, Text.cut_empty, List.map_cons, List.cons.injEq] at hsegments
  exact text_ne_empty name hsegments.1.symm

theorem endsInSlash_ofNames (names : List FileName) : (ofNames names).endsInSlash = false := by
  induction names with
  | nil => simp [ofNames, endsInSlash, Text.join]
  | cons name names ih =>
    cases names with
    | nil =>
      refine Bool.eq_false_iff.2 fun h => slash_notMem name ?_
      exact List.mem_of_getLast? (by simpa [endsInSlash, ofNames] using h)
    | cons next rest =>
      have hne := text_ofNames_ne_empty (List.cons_ne_nil next rest)
      rw [ofNames, List.map_cons, Text.join_cons _ _ (by simp)]
      exact (endsInSlash_append _ hne).trans ih

/-- A path of names behind another one is the path of all the names. -/
theorem join_ofNames {names more : List FileName} (h : names ≠ []) (hmore : more ≠ []) :
    (ofNames names).join (ofNames more) = ofNames (names ++ more) := by
  unfold join
  rw [if_neg (by simp [isAbsolute_ofNames]),
    if_neg (by simp [text_ofNames_ne_empty h, endsInSlash_ofNames])]
  simp only [ofNames, List.map_append]
  rw [Text.join_append (by simpa using h) (by simpa using hmore)]

/-- What joining puts between two texts. -/
def gap (base : Path) : String :=
  if base.text = "" || base.endsInSlash then "" else "/"

theorem join_of_relative {base p : Path} (h : p.isAbsolute = false) :
    base.join p = ⟨base.text ++ base.gap ++ p.text⟩ := by
  unfold join gap
  rw [if_neg (by simp [h])]
  split <;> simp

/-- Joining one by one or at once is the same. -/
theorem join_join {base p q : Path} (hp : p.isAbsolute = false) (hq : q.isAbsolute = false)
    (hne : p.text ≠ "") : (base.join p).join q = base.join (p.join q) := by
  have hpq : (p.join q).isAbsolute = false := by rw [isAbsolute_join hq, hp]
  have hgap : (base.join p).gap = p.gap := by
    have hempty : (base.join p).text ≠ "" := by simp [join_of_relative hp, hne]
    simp [gap, endsInSlash_join hne, hempty, hne]
  rw [join_of_relative hq, hgap, join_of_relative hpq, join_of_relative hq, join_of_relative hp]
  simp only [String.append_assoc]

/-! ## Names behind a base -/

section Base

variable {base : Path} {names : List FileName}

theorem join_join_ofNames {more : List FileName} (h : names ≠ []) (hmore : more ≠ []) :
    (base.join (ofNames names)).join (ofNames more) = base.join (ofNames (names ++ more)) := by
  rw [join_join (isAbsolute_ofNames _) (isAbsolute_ofNames _) (text_ofNames_ne_empty h),
    join_ofNames h hmore]

theorem steps_join_ofNames (h : names ≠ []) :
    (base.join (ofNames names)).steps = base.steps ++ names.map .down := by
  rw [steps_join (isAbsolute_ofNames names), steps_ofNames h]

end Base

end Path

namespace FileSystem

variable {fs : FileSystem} {base : Path} {names : List FileName} {l : Location}

theorem origin_join_ofNames : fs.origin (base.join (.ofNames names)) = fs.origin base := by
  simp [origin, Path.isAbsolute_join (Path.isAbsolute_ofNames names)]

/-- Names lead down from where their base leads. -/
theorem target_join_ofNames (h : names ≠ []) :
    fs.target (base.join (.ofNames names)) = names.reverse ++ fs.target base := by
  rw [target, origin_join_ofNames, Path.steps_join_ofNames h, Location.follow_append,
    Location.follow_down]
  rfl

/-- On the way to names behind a base are the way to the base and the first names. -/
theorem onWay_join_ofNames (h : names ≠ []) (hl : fs.OnWay (base.join (.ofNames names)) l) :
    fs.OnWay base l ∨ ∃ first, first <+: names ∧ l = first.reverse ++ fs.target base := by
  obtain ⟨steps, hsteps, rfl⟩ := hl
  rw [Path.steps_join_ofNames h] at hsteps
  rw [origin_join_ofNames]
  rcases List.prefix_or_prefix_of_prefix hsteps (List.prefix_append base.steps _) with hbase | hbase
  · exact .inl ⟨steps, hbase, rfl⟩
  · obtain ⟨rest, rfl⟩ := hbase
    obtain ⟨first, hfirst, rfl⟩ :=
      List.prefix_map_iff.1 ((List.prefix_append_right_inj _).1 hsteps)
    refine .inr ⟨first, hfirst, ?_⟩
    rw [Location.follow_append, Location.follow_down]
    rfl

end FileSystem
end CrudForge
