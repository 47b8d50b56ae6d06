import CrudForge.Text.Lines
import CrudForge.Text.Split

/-!
# Laws of lines

A text that is put together from lines, each with its line feed and no other line break, has exactly
these lines. With something in front of its end, a line may as well end in a carriage return.

## Main definitions

* `Text.IsLine` — a line that ends in a line feed.
* `Text.IsPiece` — a line with any end or none.
* `Text.IsWholeLine` — a line with any end, and something in front of it.
-/

namespace CrudForge.Text

/-- A line feed ends `line`, and no line break stands before it. -/
def IsLine (line : String) : Prop :=
  ∃ body : String, line = body ++ "\n" ∧ '\n' ∉ body.toList ∧ '\r' ∉ body.toList

/-- What ends a line. -/
def lineEnds : List (List Char) :=
  [['\n'], ['\r'], ['\r', '\n']]

/-- No line break stands in `body`. -/
def IsUnbroken (body : List Char) : Prop :=
  '\n' ∉ body ∧ '\r' ∉ body

instance (body : List Char) : Decidable (IsUnbroken body) :=
  inferInstanceAs (Decidable ('\n' ∉ body ∧ '\r' ∉ body))

/-- The only line break, if there is one, is the end. -/
def IsPiece (piece : List Char) : Prop :=
  ∃ body ending, piece = body ++ ending ∧ IsUnbroken body ∧ (ending = [] ∨ ending ∈ lineEnds)

/-- A line break is the end. -/
def IsEnded (piece : List Char) : Prop :=
  ∃ ending ∈ lineEnds, ending <:+ piece

/-- A line has an end, and begins with something else. -/
def IsWholeLine (line : String) : Prop :=
  ∃ first body ending, line.toList = first :: body ++ ending ∧ IsUnbroken (first :: body) ∧
    ending ∈ lineEnds

theorem isUnbroken_cons {c : Char} {body : List Char} :
    IsUnbroken (c :: body) ↔ (c ≠ '\n' ∧ c ≠ '\r') ∧ IsUnbroken body := by
  simp only [IsUnbroken, List.mem_cons]
  grind

/-- A text between two tags and a line feed behind them are a line. -/
theorem isLine_tagged {front text back : String} (hfront : IsUnbroken front.toList)
    (htext : IsUnbroken text.toList) (hback : IsUnbroken back.toList) :
    IsLine (front ++ text ++ back ++ "\n") := by
  refine ⟨front ++ text ++ back, rfl, ?_, ?_⟩
  · simp [hfront.1, htext.1, hback.1]
  · simp [hfront.2, htext.2, hback.2]

/-! ## Cutting -/

theorem linesChars_cons {c : Char} (hfeed : c ≠ '\n') (hreturn : c ≠ '\r') (cs : List Char) :
    linesChars (c :: cs) = consLine c (linesChars cs) := by
  rw [linesChars]
  · exact hfeed
  · exact hreturn

/-- What has no line break belongs to the line behind it. -/
theorem linesChars_append_of_eq_cons {body tail first : List Char} {rest : List (List Char)}
    (hbody : IsUnbroken body) (h : linesChars tail = first :: rest) :
    linesChars (body ++ tail) = (body ++ first) :: rest := by
  induction body with
  | nil => exact h
  | cons c body ih =>
    obtain ⟨⟨hfeed, hreturn⟩, hbody⟩ := isUnbroken_cons.1 hbody
    rw [List.cons_append, linesChars_cons hfeed hreturn, ih hbody]
    rfl

theorem linesChars_append {body : List Char} (hfeed : '\n' ∉ body) (hreturn : '\r' ∉ body)
    (rest : List Char) :
    linesChars (body ++ '\n' :: rest) = (body ++ ['\n']) :: linesChars rest :=
  linesChars_append_of_eq_cons ⟨hfeed, hreturn⟩ (by rw [linesChars])

/-- An end is cut off, unless a line feed behind it would make it longer. -/
theorem linesChars_append_lineEnd {ending rest : List Char} (hending : ending ∈ lineEnds)
    (hrest : rest.head? ≠ some '\n') :
    linesChars (ending ++ rest) = ending :: linesChars rest := by
  have hreturn : linesChars ('\r' :: rest) = ['\r'] :: linesChars rest := by
    rw [linesChars]
    rintro tail rfl
    simp at hrest
  simp only [lineEnds, List.mem_cons, List.not_mem_nil, or_false] at hending
  rcases hending with rfl | rfl | rfl
  · rw [List.singleton_append, linesChars]
  · exact hreturn
  · rw [List.cons_append, List.singleton_append, linesChars, linesChars]
    rfl

theorem isPiece_consLine {c : Char} {rest : List (List Char)} (hc : c ≠ '\n' ∧ c ≠ '\r')
    (h : ∀ piece ∈ rest, IsPiece piece) : ∀ piece ∈ consLine c rest, IsPiece piece := by
  cases rest with
  | nil =>
    intro piece hpiece
    obtain rfl := List.mem_singleton.1 hpiece
    exact ⟨[c], [], rfl, isUnbroken_cons.2 ⟨hc, by simp [IsUnbroken]⟩, .inl rfl⟩
  | cons first rest =>
    obtain ⟨⟨body, ending, rfl, hbody, hending⟩, hrest⟩ := List.forall_mem_cons.1 h
    exact List.forall_mem_cons.2
      ⟨⟨c :: body, ending, rfl, isUnbroken_cons.2 ⟨hc, hbody⟩, hending⟩, hrest⟩

theorem isPiece_of_mem_lineEnds {ending : List Char} (h : ending ∈ lineEnds) : IsPiece ending :=
  ⟨[], ending, rfl, by simp [IsUnbroken], .inr h⟩

/-- Every line is a piece. -/
theorem isPiece_linesChars (cs : List Char) : ∀ piece ∈ linesChars cs, IsPiece piece := by
  fun_induction linesChars cs with
  | case1 => simp
  | case2 cs ih =>
    exact List.forall_mem_cons.2 ⟨isPiece_of_mem_lineEnds (by decide), ih⟩
  | case3 cs ih =>
    rw [linesChars, List.forall_mem_cons] at ih
    rw [linesChars]
    exact List.forall_mem_cons.2 ⟨isPiece_of_mem_lineEnds (by decide), ih.2⟩
  | case4 cs hfeed ih =>
    exact List.forall_mem_cons.2 ⟨isPiece_of_mem_lineEnds (by decide), ih⟩
  | case5 c cs hfeed hreturn ih => exact isPiece_consLine ⟨hfeed, hreturn⟩ ih

theorem isEnded_of_mem_lineEnds {ending : List Char} (h : ending ∈ lineEnds) : IsEnded ending :=
  ⟨ending, h, List.suffix_refl ending⟩

theorem isClosedLine_of_isEnded {line : String} (h : IsEnded line.toList) :
    isClosedLine line = true := by
  obtain ⟨ending, hending, body, hline⟩ := h
  unfold isClosedLine
  rw [← hline]
  simp only [lineEnds, List.mem_cons, List.not_mem_nil, or_false] at hending
  rcases hending with rfl | rfl | rfl <;> simp

theorem forall_mem_dropLast_cons {p : List Char → Prop} {piece : List Char}
    {rest : List (List Char)} (hpiece : p piece) (hrest : ∀ piece ∈ rest.dropLast, p piece) :
    ∀ other ∈ (piece :: rest).dropLast, p other := by
  cases rest with
  | nil => simp
  | cons next rest => exact List.forall_mem_cons.2 ⟨hpiece, hrest⟩

theorem isEnded_consLine (c : Char) {rest : List (List Char)}
    (h : ∀ piece ∈ rest.dropLast, IsEnded piece) :
    ∀ piece ∈ (consLine c rest).dropLast, IsEnded piece := by
  rcases rest with _ | ⟨first, _ | ⟨next, rest⟩⟩
  · simp [consLine]
  · simp [consLine]
  · obtain ⟨⟨ending, hending, hfirst⟩, hrest⟩ := List.forall_mem_cons.1 h
    exact List.forall_mem_cons.2
      ⟨⟨ending, hending, hfirst.trans (List.suffix_cons c first)⟩, hrest⟩

/-- Only the last line of a text may have no end. -/
theorem isEnded_of_mem_dropLast (cs : List Char) :
    ∀ piece ∈ (linesChars cs).dropLast, IsEnded piece := by
  fun_induction linesChars cs with
  | case1 => simp
  | case2 cs ih => exact forall_mem_dropLast_cons (isEnded_of_mem_lineEnds (by decide)) ih
  | case3 cs ih => exact isEnded_consLine '\r' ih
  | case4 cs hfeed ih => exact forall_mem_dropLast_cons (isEnded_of_mem_lineEnds (by decide)) ih
  | case5 c cs hfeed hreturn ih => exact isEnded_consLine c ih

theorem isClosedLine_of_mem_dropLast {s line : String} (h : line ∈ (lines s).dropLast) :
    isClosedLine line = true := by
  rw [lines, ← List.map_dropLast] at h
  obtain ⟨piece, hpiece, rfl⟩ := List.mem_map.1 h
  apply isClosedLine_of_isEnded
  rw [String.toList_ofList]
  exact isEnded_of_mem_dropLast s.toList piece hpiece

/-! ## Putting together -/

theorem toList_concat_map_ofList (pieces : List (List Char)) :
    (concat (pieces.map String.ofList)).toList = pieces.flatten := by
  induction pieces with
  | nil => rfl
  | cons piece rest ih => simpa [concat] using ih

/-- The lines of a text make it up. -/
theorem concat_lines (s : String) : concat (lines s) = s := by
  rw [← String.toList_inj, lines, toList_concat_map_ofList, flatten_linesChars]

/-- Lines are cut where they were put together. -/
theorem lines_concat {texts : List String} (h : ∀ line ∈ texts, IsLine line) :
    lines (concat texts) = texts := by
  induction texts with
  | nil => rfl
  | cons line rest ih =>
    obtain ⟨⟨body, rfl, hfeed, hreturn⟩, hrest⟩ := List.forall_mem_cons.1 h
    have hchars : (concat ((body ++ "\n") :: rest)).toList =
        body.toList ++ '\n' :: (concat rest).toList := by
      simp [concat]
    have ih := ih hrest
    unfold lines at ih ⊢
    rw [hchars, linesChars_append hfeed hreturn, List.map_cons, ih]
    simp

theorem head?_concat_ne {texts : List String} (h : ∀ line ∈ texts, IsWholeLine line) :
    (concat texts).toList.head? ≠ some '\n' := by
  cases texts with
  | nil => simp [concat]
  | cons line rest =>
    obtain ⟨first, body, ending, hline, hbody, -⟩ := h line (by simp)
    have hfirst := (isUnbroken_cons.1 hbody).1.1
    simpa [concat, hline] using hfirst

/-- Whole lines are cut where they were put together, even if some end in carriage returns: what
comes behind these is never a line feed. -/
theorem lines_concat_of_isWholeLine {texts : List String} (h : ∀ line ∈ texts, IsWholeLine line) :
    lines (concat texts) = texts := by
  induction texts with
  | nil => rfl
  | cons line rest ih =>
    obtain ⟨⟨first, body, ending, hline, hbody, hending⟩, hrest⟩ := List.forall_mem_cons.1 h
    have hchars : (concat (line :: rest)).toList =
        (first :: body) ++ (ending ++ (concat rest).toList) := by
      simp [concat, hline]
    have hcut := linesChars_append_of_eq_cons hbody
      (linesChars_append_lineEnd hending (head?_concat_ne hrest))
    have ih := ih hrest
    unfold lines at ih ⊢
    rw [hchars, hcut, List.map_cons, ih, ← hline, String.ofList_toList]

end CrudForge.Text
