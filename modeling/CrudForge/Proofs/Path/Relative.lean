import CrudForge.Layout
import CrudForge.Proofs.Path.Components

/-!
# Paths as they are shown

A path is shown as seen from the root of a project where the components of the root are its first
ones. Behind the root such a path names what it named before. All paths of a layout are of this
kind, or absolute, and then they stand for themselves behind any root.

## Main definitions

* `Path.IsWithin` — a path that is absolute or starts with the components of a root.
* `Layout.Holds` — the paths of a layout.
-/

namespace CrudForge

namespace Path

/-! ## Idle parts -/

theorem innerComponent?_eq_none {segment : String} :
    innerComponent? segment = none ↔ isIdle segment = true := by
  unfold innerComponent?
  split
  · simp_all
  · split <;> simp_all

theorem filterMap_dropWhile (segments : List String) :
    (segments.dropWhile isIdle).filterMap innerComponent? =
      segments.filterMap innerComponent? := by
  induction segments with
  | nil => rfl
  | cons segment segments ih =>
    by_cases hidle : isIdle segment = true
    · rw [List.dropWhile_cons_of_pos hidle, ih,
        List.filterMap_cons_none (innerComponent?_eq_none.2 hidle)]
    · rw [List.dropWhile_cons_of_neg hidle]

theorem filterMap_dropIdleEnd (segments : List String) :
    (dropIdleEnd segments).filterMap innerComponent? = segments.filterMap innerComponent? := by
  rw [dropIdleEnd, List.filterMap_reverse, filterMap_dropWhile, List.filterMap_reverse,
    List.reverse_reverse]

/-- Each step drops one component. -/
theorem filterMap_dropComponents (count : Nat) (segments : List String) :
    (dropComponents count segments).filterMap innerComponent? =
      (segments.filterMap innerComponent?).drop count := by
  induction count generalizing segments with
  | zero => rfl
  | succ count ih =>
    rw [dropComponents, ih, ← filterMap_dropWhile segments]
    cases hrest : segments.dropWhile isIdle with
    | nil => simp
    | cons segment rest =>
      -- what is in front after the idle parts is a component
      have hactive : isIdle segment = false := by
        simpa [hrest] using List.head_dropWhile_not isIdle (l := segments) (by simp [hrest])
      have hsome : innerComponent? segment ≠ none := by simp [innerComponent?_eq_none, hactive]
      obtain ⟨component, hcomponent⟩ := Option.ne_none_iff_exists'.1 hsome
      rw [List.filterMap_cons_some hcomponent]
      rfl

theorem isSublist_dropComponents (count : Nat) (segments : List String) :
    (dropComponents count segments).Sublist segments := by
  induction count generalizing segments with
  | zero => exact List.Sublist.refl _
  | succ count ih =>
    exact ((ih _).trans (List.drop_sublist 1 _)).trans (List.dropWhile_sublist _)

/-- What is left between idle ends does not start with an idle part. -/
theorem isIdle_of_mem_head? {segments : List String} {segment : String}
    (h : segment ∈ (dropIdleEnd (segments.dropWhile isIdle)).head?) : isIdle segment = false := by
  have hfirst := List.head?_dropWhile_not isIdle segments
  obtain ⟨rest, hrest⟩ := isPrefix_dropIdleEnd (segments.dropWhile isIdle)
  obtain ⟨inner, hinner⟩ := List.head?_eq_some_iff.1 h
  rw [hinner, List.cons_append] at hrest
  simpa [← hrest] using hfirst

/-! ## Remainders -/

/-- The path of parts of which the first is not idle is relative and names what they name. -/
theorem components_of_parts {segments : List String}
    (hslash : ∀ segment ∈ segments, '/' ∉ segment.toList)
    (hfirst : ∀ segment ∈ segments.head?, isIdle segment = false) :
    isAbsolute ⟨Text.join "/" segments⟩ = false ∧
      (Path.segments ⟨Text.join "/" segments⟩).filterMap innerComponent? =
        segments.filterMap innerComponent? := by
  cases segments with
  | nil => simp [Text.join, innerComponent?, isIdle]
  | cons first inner =>
    have hne : first ≠ "" := by
      rintro rfl
      simp [isIdle] at hfirst
    refine ⟨?_, congrArg _ (Text.cut_join (by simp) hslash)⟩
    rw [isAbsolute_join_parts inner (hslash first (by simp))]
    simp [hne]

/-- Where no component is left out, only idle parts at the end are. -/
theorem components_remainder_zero (p : Path) : (p.remainder 0).components = p.components := by
  obtain ⟨first, inner, hsegments⟩ := exists_segments_eq p
  have hzero : p.remainder 0 =
      if p.text = "" then ⟨""⟩ else ofSpine (first :: dropIdleEnd inner) := by
    unfold remainder
    rw [hsegments]
  by_cases hempty : p.text = ""
  · obtain rfl : p = ⟨""⟩ := congrArg Path.mk hempty
    rw [hzero, if_pos rfl]
  · rw [hzero, if_neg hempty, components_of_segments hsegments,
      startComponents_of_segments hsegments hempty, ← filterMap_dropIdleEnd inner]
    unfold ofSpine
    split
    · rename_i hroot
      obtain ⟨rfl, hinner⟩ := List.cons.inj hroot
      have hslash : segments ⟨"/"⟩ = ["", ""] := by simpa using segments_slash "" ""
      rw [components_of_segments hslash, hinner]
      simp [startComponents, innerComponent?, isIdle]
    · rename_i hspine
      have hparts : ∀ segment ∈ first :: dropIdleEnd inner, '/' ∉ segment.toList := by
        intro segment hsegment
        refine slash_notMem_of_segments (p := p) (hsegments ▸ ?_)
        exact (List.cons_sublist_cons.2 (isPrefix_dropIdleEnd inner).sublist).subset hsegment
      have hnew : segments ⟨Text.join "/" (first :: dropIdleEnd inner)⟩ =
          first :: dropIdleEnd inner := Text.cut_join (by simp) hparts
      have hne : Text.join "/" (first :: dropIdleEnd inner) ≠ "" := by
        intro hnone
        rw [hnone, segments_empty] at hnew
        exact hspine hnew.symm
      rw [components_of_segments hnew, startComponents_of_segments hnew hne]

theorem exists_startComponents_eq (first : String) :
    ∃ component, startComponents first false = [component] := by
  unfold startComponents
  by_cases hempty : first = ""
  · simp [hempty]
  · by_cases hdot : first = "."
    · simp [hdot]
    · have hsome : innerComponent? first ≠ none := by
        simp [innerComponent?_eq_none, isIdle, hempty, hdot]
      obtain ⟨component, hcomponent⟩ := Option.ne_none_iff_exists'.1 hsome
      simp [hempty, hdot, hcomponent]

/-- The first part of a path that is not empty names one component, the others what they name
inside. -/
theorem exists_components_eq {p : Path} (hp : p.text ≠ "") {first : String} {inner : List String}
    (hsegments : p.segments = first :: inner) :
    ∃ component, p.components = component :: inner.filterMap innerComponent? := by
  obtain ⟨component, hcomponent⟩ := exists_startComponents_eq first
  refine ⟨component, ?_⟩
  rw [components_of_segments hsegments, startComponents_of_segments hsegments hp, hcomponent]
  rfl

/-- Behind a root that is not empty the remainder names what the path has behind its first
components. -/
theorem components_join_remainder {root p : Path} (hroot : root.text ≠ "") (hp : p.text ≠ "")
    (count : Nat) :
    (root.join (p.remainder (count + 1))).components =
      root.components ++ p.components.drop (count + 1) := by
  obtain ⟨first, inner, hsegments⟩ := exists_segments_eq p
  have hsucc : p.remainder (count + 1) =
      ⟨Text.join "/" (dropIdleEnd ((dropComponents count inner).dropWhile isIdle))⟩ := by
    unfold remainder
    rw [hsegments]
  have hslash : ∀ segment ∈ dropIdleEnd ((dropComponents count inner).dropWhile isIdle),
      '/' ∉ segment.toList := by
    intro segment hsegment
    have hkept := (isPrefix_dropIdleEnd _).sublist.subset hsegment
    have hinner := (isSublist_dropComponents count inner).subset
      ((List.dropWhile_sublist _).subset hkept)
    exact slash_notMem_of_segments (p := p) (hsegments ▸ List.mem_cons_of_mem first hinner)
  obtain ⟨hrelative, hparts⟩ := components_of_parts hslash fun _ => isIdle_of_mem_head?
  obtain ⟨component, hcomponents⟩ := exists_components_eq hp hsegments
  rw [hsucc, components_join hrelative hroot, hparts, filterMap_dropIdleEnd, filterMap_dropWhile,
    filterMap_dropComponents, hcomponents, List.drop_succ_cons]

theorem relativeTo_of_not_isPrefix {base p : Path} (h : ¬base.components <+: p.components) :
    p.relativeTo base = p :=
  relativeTo_of_not_prefix (Bool.eq_false_iff.2 (mt List.isPrefixOf_iff_prefix.1 h))

/-- Behind its base, a path as seen from the base names what it named. -/
theorem components_join_relativeTo {base p : Path} (h : base.components <+: p.components) :
    (base.join (p.relativeTo base)).components = p.components := by
  rw [relativeTo, if_pos (List.isPrefixOf_iff_prefix.2 h)]
  by_cases hbase : base.text = ""
  · obtain rfl : base = ⟨""⟩ := congrArg Path.mk hbase
    have hjoin (q : Path) : join ⟨""⟩ q = q := by
      unfold join
      split <;> simp
    rw [hjoin]
    exact components_remainder_zero p
  · obtain ⟨first, inner, hsegments⟩ := exists_segments_eq base
    obtain ⟨component, hcomponents⟩ := exists_components_eq hbase hsegments
    have hp : p.text ≠ "" := by
      intro hempty
      obtain rfl : p = ⟨""⟩ := congrArg Path.mk hempty
      have hnone := List.prefix_nil.1 h
      rw [hcomponents] at hnone
      exact List.cons_ne_nil _ _ hnone
    have hlength : base.components.length = (inner.filterMap innerComponent?).length + 1 := by
      rw [hcomponents, List.length_cons]
    rw [hlength, components_join_remainder hbase hp, ← hlength]
    exact List.prefix_iff_eq_append.1 h

/-! ## Paths of a project -/

/-- The path stands for itself behind any root, or it starts with the components of `root`. -/
def IsWithin (p root : Path) : Prop :=
  p.isAbsolute = true ∨ root.components <+: p.components

namespace IsWithin

variable {root base p : Path}

theorem self (root : Path) : root.IsWithin root :=
  .inr (List.prefix_refl _)

/-- What is joined to a path stays where the path is, or is absolute. -/
theorem join (h : base.IsWithin root) (p : Path) : (base.join p).IsWithin root := by
  by_cases hp : p.isAbsolute = true
  · exact .inl (by rw [join_of_isAbsolute hp, hp])
  · have hrelative : p.isAbsolute = false := by simpa using hp
    refine h.imp (fun habsolute => by rw [isAbsolute_join hrelative, habsolute]) fun hprefix => ?_
    by_cases hbase : base.text = ""
    · obtain rfl : base = ⟨""⟩ := congrArg Path.mk hbase
      have hnone : root.components = [] := List.prefix_nil.1 hprefix
      simp [hnone]
    · rw [components_join hrelative hbase]
      exact hprefix.trans (List.prefix_append _ _)

/-- Behind the root the path as it is shown names what the path names. -/
theorem components_join_relativeTo (h : p.IsWithin root) :
    (root.join (p.relativeTo root)).components = p.components := by
  by_cases hprefix : root.components <+: p.components
  · exact Path.components_join_relativeTo hprefix
  · have habsolute := h.resolve_right hprefix
    rw [relativeTo_of_not_isPrefix hprefix, join_of_isAbsolute habsolute]

end IsWithin

end Path

namespace Layout

/-- The paths of a layout: the files of models and controllers, the directories of views, the views,
and the file of the routes. -/
inductive Holds (layout : Layout) : Path → Prop
  | model (resource : String) : Holds layout (layout.modelFile resource)
  | controller (resource : String) : Holds layout (layout.controllerFile resource)
  | viewDirectory (resource : String) : Holds layout (layout.viewDirectory resource)
  | view (resource view : String) : Holds layout (layout.viewFile resource view)
  | routes : Holds layout layout.routeFile

/-- Whatever the root, the directories, the extensions and the names are. -/
theorem Holds.isWithin {root p : Path} {settings : Settings} (h : (of root settings).Holds p) :
    p.IsWithin root := by
  cases h with
  | model => exact ((Path.IsWithin.self root).join _).join _
  | controller => exact ((Path.IsWithin.self root).join _).join _
  | viewDirectory => exact ((Path.IsWithin.self root).join _).join _
  | view => exact (((Path.IsWithin.self root).join _).join _).join _
  | routes => exact ((Path.IsWithin.self root).join _).join _

/-- Behind the root, a path of the layout as it is shown names what the path names. A path that does
not start with the components of the root is shown as it is. -/
theorem join_relative (root : Path) (settings : Settings) (p : Path) :
    ((of root settings).Holds p →
      (root.join ((of root settings).relative p)).components = p.components) ∧
    (¬root.components <+: p.components → (of root settings).relative p = p) :=
  ⟨fun hholds => hholds.isWithin.components_join_relativeTo, Path.relativeTo_of_not_isPrefix⟩

/-- Directories inside of an absolute root, outside of it, at it, and above it. -/
def scattered : Settings :=
  { Settings.standard with
    directories :=
      { models := ⟨"/srv/app/./m"⟩, controllers := ⟨"/c"⟩, views := ⟨""⟩, routes := ⟨"../r//"⟩
        stubs := ⟨""⟩ } }

theorem join_relative_scattered :
    (of ⟨"/srv//app/."⟩ scattered).Holds ⟨"/srv/app/./m/Post.php"⟩ ∧
      (of ⟨"/srv//app/."⟩ scattered).relative ⟨"/srv/app/./m/Post.php"⟩ = ⟨"m/Post.php"⟩ ∧
      Path.components ⟨"/srv//app/./m/Post.php"⟩ = Path.components ⟨"/srv/app/./m/Post.php"⟩ ∧
      ¬Path.components ⟨"/srv//app/."⟩ <+: Path.components ⟨"/c/PostController.php"⟩ ∧
      (of ⟨"/srv//app/."⟩ scattered).relative ⟨"/c/PostController.php"⟩ =
        ⟨"/c/PostController.php"⟩ := by
  have hfile : (of ⟨"/srv//app/."⟩ scattered).modelFile "Post" = ⟨"/srv/app/./m/Post.php"⟩ := by
    decide
  have hholds : (of ⟨"/srv//app/."⟩ scattered).Holds ⟨"/srv/app/./m/Post.php"⟩ :=
    hfile ▸ Holds.model "Post"
  have hrelative : (of ⟨"/srv//app/."⟩ scattered).relative ⟨"/srv/app/./m/Post.php"⟩ =
      ⟨"m/Post.php"⟩ := by decide
  have hjoin : Path.join ⟨"/srv//app/."⟩ ⟨"m/Post.php"⟩ = ⟨"/srv//app/./m/Post.php"⟩ := by
    decide
  have hoff : ¬Path.components ⟨"/srv//app/."⟩ <+: Path.components ⟨"/c/PostController.php"⟩ := by
    decide
  refine ⟨hholds, hrelative, ?_, hoff, (join_relative _ scattered _).2 hoff⟩
  rw [← hjoin, ← hrelative]
  exact (join_relative _ scattered _).1 hholds

end Layout

end CrudForge
