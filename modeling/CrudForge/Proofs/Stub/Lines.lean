import CrudForge.Proofs.Stub.Parts

/-!
# Filling line by line

No slot reaches over a line feed, so a template is filled line by line. Two opening braces that are
not closed on their line are copied, and what closes braces on another line does not belong to them.

## Main definitions

* `Template.Closes` — two closing braces stand in a text.
-/

namespace CrudForge.Template

open Text

variable {values : Values} {key : String}

theorem feed_notMem_slotChars (h : IsPlain key) : '\n' ∉ slotChars key := by
  have hkey : '\n' ∉ key.toList := fun hmem => by simpa [isKeyChar] using h _ hmem
  simp [slotChars, hkey]

/-- A line feed cuts a template into parts that are filled on their own. -/
theorem fill_append_feed (values : Values) (a b : String) :
    fill (a ++ "\n" ++ b) values = fill a values ++ "\n" ++ fill b values :=
  fill_append_cons (fun _ _ => feed_notMem_slotChars) a b

theorem fill_join (values : Values) (lines : List String) :
    fill (join "\n" lines) values = join "\n" (lines.map fun line => fill line values) := by
  induction lines with
  | nil => rfl
  | cons line rest ih =>
    cases rest with
    | nil => rfl
    | cons next rest =>
      rw [join_cons _ _ (by simp), fill_append_feed, ih]
      rfl

/-! ## Braces that are not closed -/

/-- Two closing braces stand somewhere in `s`. -/
def Closes (s : String) : Prop :=
  ['\x7d', '\x7d'] <:+: s.toList

instance (s : String) : Decidable (Closes s) :=
  inferInstanceAs (Decidable (['\x7d', '\x7d'] <:+: s.toList))

/-- A slot is closed behind the braces that open it. -/
theorem closes_of_slotText {before tail after : String}
    (h : "\x7b\x7b" ++ tail = before ++ slotText key ++ after) : Closes tail := by
  have hslot : ['\x7d', '\x7d'] <:+: slotChars key :=
    ⟨'\x7b' :: '\x7b' :: key.toList, [], by simp [slotChars]⟩
  have htext : slotChars key <:+: '\x7b' :: '\x7b' :: tail.toList := by
    refine ⟨before.toList, after.toList, ?_⟩
    simpa [slotText] using (congrArg String.toList h).symm
  have hinfix := hslot.trans htext
  rw [List.infix_cons_iff, List.infix_cons_iff] at hinfix
  rcases hinfix with hprefix | hprefix | hinfix
  · simp at hprefix
  · simp at hprefix
  · exact hinfix

/-- Opening braces that are not closed are copied with what is behind them. -/
theorem fill_unclosed {tail : String} (h : ¬Closes tail) (values : Values) (front : String) :
    fill (front ++ "\x7b\x7b" ++ tail) values = fill front values ++ "\x7b\x7b" ++ tail := by
  have hbehind : fill ("\x7b\x7b" ++ tail) values = "\x7b\x7b" ++ tail := by
    rw [fill_eq_spell _ values.get?_eq_value]
    apply spell_of_noSlot (decomposes_scan _ _)
    intro key before after _ _ htext
    exact h (closes_of_slotText htext)
  have happend : fill (front ++ ("\x7b\x7b" ++ tail)) values =
      fill front values ++ fill ("\x7b\x7b" ++ tail) values := by
    apply fill_append_of
    intro c cs _
    rw [String.toList_append]
    exact slotKey?_append
  rw [String.append_assoc, happend, hbehind, String.append_assoc]

/-- A template is filled line by line. Whatever a line holds, the lines around it are filled as they
are on their own, and opening braces that are not closed on it are copied. -/
theorem fill_line_by_line (values : Values) :
    (∀ a b, fill (a ++ "\n" ++ b) values = fill a values ++ "\n" ++ fill b values) ∧
    (∀ text, fill text values =
      join "\n" ((cut '\n' text).map fun line => fill line values)) ∧
    ∀ before front tail after,
      fill (before ++ "\n" ++ (front ++ "\x7b\x7b" ++ tail) ++ "\n" ++ after) values =
        fill before values ++ "\n" ++ fill (front ++ "\x7b\x7b" ++ tail) values ++ "\n" ++
          fill after values ∧
      (¬Closes tail →
        fill (front ++ "\x7b\x7b" ++ tail) values = fill front values ++ "\x7b\x7b" ++ tail) := by
  refine ⟨fill_append_feed values, ?_, ?_⟩
  · intro text
    conv => lhs; rw [← join_cut '\n' text]
    exact fill_join values _
  · intro before front tail after
    refine ⟨?_, fun h => fill_unclosed h values front⟩
    rw [fill_append_feed, fill_append_feed]

/-- The braces that are opened on one line are not closed by those on the next. -/
theorem fill_line_by_line_open :
    ¬Closes "k" ∧
      fill "\x7b\x7bk\x7d\x7d \x7b\x7bk\n\x7d\x7d \x7b\x7bk\x7d\x7d" (Values.empty.set "k" "v") =
        "v \x7b\x7bk\n\x7d\x7d v" := by
  have hopen : ¬Closes "k" := by decide
  obtain ⟨hfeed, -, hunclosed⟩ := fill_line_by_line (Values.empty.set "k" "v")
  have hline := (hunclosed "" "\x7b\x7bk\x7d\x7d " "k" "").2 hopen
  have hfront : fill "\x7b\x7bk\x7d\x7d " (Values.empty.set "k" "v") = "v " := by decide
  have hnext : fill "\x7d\x7d \x7b\x7bk\x7d\x7d" (Values.empty.set "k" "v") = "\x7d\x7d v" := by
    decide
  have htext := hfeed "\x7b\x7bk\x7d\x7d \x7b\x7bk" "\x7d\x7d \x7b\x7bk\x7d\x7d"
  rw [hfront] at hline
  rw [hnext] at htext
  exact ⟨hopen, htext.trans (congrArg (· ++ "\n" ++ "\x7d\x7d v") hline)⟩

end CrudForge.Template
