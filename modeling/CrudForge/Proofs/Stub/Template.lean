import CrudForge.Stub.Template
import CrudForge.Text.Split

/-!
# What filling replaces

The slots of a template are exactly the places where a key with a value stands between double
braces. Such places never overlap, so scanning goes through them as through separators: what is in
front of a slot and what is behind it are scanned on their own.

## Main definitions

* `Template.slotText` — a key between double braces.
* `Template.spell` — the pieces of a template with some text for each slot.
* `Template.Decomposes` — a template cut into pieces, with a slot wherever one is written. There is
  one such decomposition, `Decomposes.eq_scan`.
-/

namespace CrudForge.Template

variable {has : String → Bool} {key : String}

/-- The characters of the slot with that key. -/
def slotChars (key : String) : List Char :=
  '\x7b' :: '\x7b' :: (key.toList ++ ['\x7d', '\x7d'])

/-- The slot with that key, as it is written. -/
def slotText (key : String) : String :=
  String.ofList (slotChars key)

@[simp] theorem length_slotChars (key : String) : (slotChars key).length = key.length + 4 := by
  simp [slotChars, String.length_toList]

/-- A key that can be read back from its slot. -/
def IsPlain (key : String) : Prop :=
  ∀ c ∈ key.toList, isKeyChar c = true

/-! ## One slot -/

theorem takeWhile_key (h : IsPlain key) (cs : List Char) :
    (key.toList ++ '\x7d' :: cs).takeWhile isKeyChar = key.toList := by
  rw [List.takeWhile_append_of_pos h]
  simp [isKeyChar]

theorem dropWhile_key (h : IsPlain key) (cs : List Char) :
    (key.toList ++ '\x7d' :: cs).dropWhile isKeyChar = '\x7d' :: cs := by
  rw [List.dropWhile_append_of_pos h]
  simp [isKeyChar]

/-- A text starts with a slot if it starts with the characters of one. -/
theorem slotKey?_eq_some {cs : List Char} :
    slotKey? has cs = some key ↔
      has key = true ∧ IsPlain key ∧ ∃ rest, cs = slotChars key ++ rest := by
  constructor
  · intro h
    unfold slotKey? at h
    split at h
    · rename_i rest
      simp only at h
      split at h
      · rename_i behind hbehind
        split at h
        · rename_i hhas
          obtain rfl := Option.some.inj h
          refine ⟨hhas, ?_, behind, ?_⟩
          · intro c hc
            exact List.all_eq_true.1 List.all_takeWhile c (by simpa using hc)
          · have hrest := List.takeWhile_append_dropWhile (p := isKeyChar) (l := rest)
            rw [hbehind] at hrest
            simp [slotChars, hrest]
        · simp at h
      · simp at h
    · simp at h
  · rintro ⟨hhas, hplain, rest, rfl⟩
    have hcs : slotChars key ++ rest =
        '\x7b' :: '\x7b' :: (key.toList ++ '\x7d' :: '\x7d' :: rest) := by simp [slotChars]
    rw [hcs, slotKey?, takeWhile_key hplain, dropWhile_key hplain]
    simp [hhas]

/-- A slot that starts in front of an opening brace ends there too: it has no brace of that kind but
its first two, and behind two of them there is no third. -/
theorem exists_of_slotChars_append {c : Char} {as bs rest : List Char} (hplain : IsPlain key)
    (h : slotChars key ++ rest = c :: as ++ '\x7b' :: '\x7b' :: bs) :
    ∃ behind, c :: as = slotChars key ++ behind := by
  have hopen : '\x7b' ∉ key.toList ++ ['\x7d', '\x7d'] := by
    rw [List.mem_append, not_or]
    exact ⟨fun hmem => absurd (hplain _ hmem) (by decide), by decide⟩
  rcases List.append_eq_append_iff.1 h with ⟨behind, hbehind, -⟩ | ⟨middle, hslot, hrest⟩
  · exact ⟨behind, hbehind⟩
  · cases middle with
    | nil => exact ⟨[], by simpa using hslot.symm⟩
    | cons d middle =>
      obtain ⟨rfl, -⟩ := List.cons.inj hrest
      rw [slotChars, List.cons_append, List.cons.injEq] at hslot
      obtain ⟨-, hslot⟩ := hslot
      cases as with
      | nil =>
        obtain ⟨-, hslot⟩ := List.cons.inj hslot
        have hmiddle : '\x7b' :: bs = key.toList ++ ['\x7d', '\x7d'] ++ rest := by
          simpa [← hslot] using hrest
        cases hkey : key.toList with
        | nil => simp [hkey] at hmiddle
        | cons k ks =>
          rw [hkey] at hmiddle hopen
          obtain ⟨rfl, -⟩ := List.cons.inj hmiddle
          simp at hopen
      | cons a as =>
        obtain ⟨-, hslot⟩ := List.cons.inj hslot
        rw [hslot] at hopen
        simp at hopen

/-- Whether a text starts with a slot is not affected by a slot behind it. -/
theorem slotKey?_append {c : Char} {as bs : List Char} :
    slotKey? has (c :: as ++ '\x7b' :: '\x7b' :: bs) = slotKey? has (c :: as) := by
  refine Option.ext fun key => ?_
  rw [slotKey?_eq_some, slotKey?_eq_some]
  constructor
  · rintro ⟨hhas, hplain, rest, hrest⟩
    exact ⟨hhas, hplain, exists_of_slotChars_append hplain hrest.symm⟩
  · rintro ⟨hhas, hplain, rest, hrest⟩
    exact ⟨hhas, hplain, rest ++ '\x7b' :: '\x7b' :: bs, by rw [hrest, List.append_assoc]⟩

/-! ## All slots -/

/-- With the characters of a slot already read, scanning goes on behind them. -/
theorem scanFrom_eq (has : String → Bool) (skip : Nat) (cs : List Char) :
    scanFrom has skip cs = scanFrom has 0 (cs.drop skip) := by
  induction cs generalizing skip with
  | nil => simp [scanFrom]
  | cons c cs ih =>
    cases skip with
    | zero => rfl
    | succ skip => simpa [scanFrom] using ih skip

/-- Behind a slot and its first character are as many characters less as that slot has more. -/
theorem drop_of_slotChars {c : Char} {cs rest : List Char} (h : c :: cs = slotChars key ++ rest) :
    cs.drop (key.length + 3) = rest := by
  have hdrop : (c :: cs).drop (key.length + 4) = rest := by
    rw [h]
    exact List.drop_left' (length_slotChars key)
  simpa using hdrop

theorem scanFrom_slotChars (hhas : has key = true) (hplain : IsPlain key) (cs : List Char) :
    scanFrom has 0 (slotChars key ++ cs) = .slot key :: scanFrom has 0 cs := by
  have hkey : slotKey? has (slotChars key ++ cs) = some key :=
    slotKey?_eq_some.2 ⟨hhas, hplain, cs, rfl⟩
  have hne : slotChars key ++ cs ≠ [] := by simp [slotChars]
  obtain ⟨c, rest, hcons⟩ := List.exists_cons_of_ne_nil hne
  rw [hcons] at hkey
  rw [hcons, scanFrom, hkey]
  simp only [scanFrom_eq has (key.length + 3), drop_of_slotChars hcons.symm]

/-- The slot that a text starts with is not longer than the text. -/
theorem length_add_le_of_slotKey? {c : Char} {cs : List Char}
    (h : slotKey? has (c :: cs) = some key) : key.length + 3 ≤ cs.length := by
  obtain ⟨-, -, rest, hcs⟩ := slotKey?_eq_some.1 h
  have hlength := congrArg List.length hcs
  rw [List.length_append, length_slotChars, List.length_cons] at hlength
  omega

/-- What is behind a text is scanned on its own if it has no part in the slots of the text. -/
theorem scanFrom_append_of {as bs : List Char}
    (h : ∀ c cs, c :: cs <:+ as → slotKey? has (c :: cs ++ bs) = slotKey? has (c :: cs))
    {skip : Nat} (hskip : skip ≤ as.length) :
    scanFrom has skip (as ++ bs) = scanFrom has skip as ++ scanFrom has 0 bs := by
  induction as generalizing skip with
  | nil =>
    obtain rfl := Nat.le_zero.1 hskip
    rfl
  | cons c as ih =>
    have ih := @ih fun d ds hd => h d ds (hd.trans (List.suffix_cons c as))
    cases skip with
    | succ skip => simpa [scanFrom] using ih (Nat.le_of_succ_le_succ hskip)
    | zero =>
      have hsame := h c as (List.suffix_refl _)
      rw [List.cons_append] at hsame
      rw [List.cons_append, scanFrom, scanFrom, hsame]
      cases hkey : slotKey? has (c :: as) with
      | none => simpa using ih (Nat.zero_le _)
      | some other => simpa using ih (length_add_le_of_slotKey? hkey)

/-- Slots cut a template into parts that are scanned on their own. -/
theorem scanFrom_append (hhas : has key = true) (hplain : IsPlain key) {skip : Nat}
    {as : List Char} (hskip : skip ≤ as.length) (bs : List Char) :
    scanFrom has skip (as ++ (slotChars key ++ bs)) =
      scanFrom has skip as ++ .slot key :: scanFrom has 0 bs := by
  have happend : scanFrom has skip (as ++ (slotChars key ++ bs)) =
      scanFrom has skip as ++ scanFrom has 0 (slotChars key ++ bs) :=
    scanFrom_append_of (fun _ _ _ => slotKey?_append) hskip
  rw [happend, scanFrom_slotChars hhas hplain]

/-! ## Decompositions -/

/-- The pieces one after the other, with a text for each slot. -/
def spell (value : String → String) (pieces : List Piece) : String :=
  Text.concat <| pieces.map fun
    | .char c => String.singleton c
    | .slot key => value key

/-- `text` is cut into `pieces`: there are slots for keys of `has` alone, and wherever the text has
one. -/
structure Decomposes (has : String → Bool) (text : String) (pieces : List Piece) : Prop where
  spelled : spell slotText pieces = text
  keyed : ∀ key, .slot key ∈ pieces → has key = true ∧ IsPlain key
  complete : ∀ {key before after : String}, has key = true → IsPlain key →
    text = before ++ slotText key ++ after →
      ∃ front back, pieces = front ++ .slot key :: back ∧ spell slotText front = before ∧
        spell slotText back = after

@[simp] theorem spell_nil (value : String → String) : spell value [] = "" := rfl

@[simp] theorem spell_char (value : String → String) (c : Char) (pieces : List Piece) :
    spell value (.char c :: pieces) = String.singleton c ++ spell value pieces := rfl

@[simp] theorem spell_slot (value : String → String) (key : String) (pieces : List Piece) :
    spell value (.slot key :: pieces) = value key ++ spell value pieces := rfl

theorem spell_append (value : String → String) (front back : List Piece) :
    spell value (front ++ back) = spell value front ++ spell value back := by
  induction front with
  | nil => simp
  | cons piece front ih => cases piece <;> simp [ih, String.append_assoc]

/-- The pieces spell what was scanned. -/
theorem toList_spell_scanFrom (skip : Nat) (cs : List Char) :
    (spell slotText (scanFrom has skip cs)).toList = cs.drop skip := by
  induction cs generalizing skip with
  | nil => simp [scanFrom]
  | cons c cs ih =>
    cases skip with
    | succ skip => simpa [scanFrom] using ih skip
    | zero =>
      rw [scanFrom]
      split
      · rename_i key hkey
        obtain ⟨-, -, rest, hcs⟩ := slotKey?_eq_some.1 hkey
        rw [spell_slot, String.toList_append, ih, drop_of_slotChars hcs, List.drop_zero, hcs]
        simp [slotText]
      · simp [ih]

theorem keyed_scanFrom {skip : Nat} {cs : List Char} (h : .slot key ∈ scanFrom has skip cs) :
    has key = true ∧ IsPlain key := by
  induction cs generalizing skip with
  | nil => simp [scanFrom] at h
  | cons c cs ih =>
    cases skip with
    | succ skip => exact ih (by simpa [scanFrom] using h)
    | zero =>
      rw [scanFrom] at h
      split at h
      · rename_i other hother
        rcases List.mem_cons.1 h with heq | hmem
        · obtain ⟨hhas, hplain, -⟩ := slotKey?_eq_some.1 hother
          obtain rfl := Piece.slot.inj heq
          exact ⟨hhas, hplain⟩
        · exact ih hmem
      · exact ih (by simpa using h)

/-- Scanning decomposes a template. -/
theorem decomposes_scan (has : String → Bool) (text : String) :
    Decomposes has text (scan has text) where
  spelled := String.toList_inj.1 (toList_spell_scanFrom 0 text.toList)
  keyed _ := keyed_scanFrom
  complete := by
    intro key before after hhas hplain htext
    refine ⟨scan has before, scan has after, ?_, ?_, ?_⟩
    · have hscan := scanFrom_append hhas hplain (Nat.zero_le before.toList.length) after.toList
      simpa [scan, htext, slotText] using hscan
    · exact String.toList_inj.1 (toList_spell_scanFrom 0 before.toList)
    · exact String.toList_inj.1 (toList_spell_scanFrom 0 after.toList)

/-- Every piece spells something. -/
theorem spell_cons_ne_empty (piece : Piece) (pieces : List Piece) :
    spell slotText (piece :: pieces) ≠ "" := by
  intro hempty
  have hempty := congrArg String.toList hempty
  cases piece <;> simp [slotText, slotChars] at hempty

/-- A decomposition without its first piece is one of what is left of the text. -/
theorem Decomposes.tail {text : String} {piece : Piece} {pieces : List Piece}
    (h : Decomposes has text (piece :: pieces)) :
    Decomposes has (spell slotText pieces) pieces where
  spelled := rfl
  keyed key hkey := h.keyed key (List.mem_cons_of_mem _ hkey)
  complete := by
    intro key before after hhas hplain hrest
    have hfirst : spell slotText (piece :: pieces) =
        spell slotText [piece] ++ spell slotText pieces := spell_append slotText [piece] pieces
    have htext : text = spell slotText [piece] ++ before ++ slotText key ++ after := by
      rw [← h.spelled, hfirst, hrest]
      simp only [String.append_assoc]
    obtain ⟨front, back, hpieces, hfront, hback⟩ := h.complete hhas hplain htext
    cases front with
    | nil =>
      have hempty := congrArg String.toList hfront
      cases piece <;> simp [slotText, slotChars] at hempty
    | cons first front =>
      obtain ⟨rfl, rfl⟩ := List.cons.inj hpieces
      refine ⟨front, back, rfl, ?_, hback⟩
      have happend := spell_append slotText [piece] front
      simpa using happend.symm.trans hfront

/-- A template has one decomposition. -/
theorem Decomposes.eq_scan {text : String} {pieces : List Piece}
    (h : Decomposes has text pieces) : pieces = scan has text := by
  induction pieces generalizing text with
  | nil =>
    rw [← h.spelled]
    simp [scan, scanFrom]
  | cons piece pieces ih =>
    have hrest := ih h.tail
    have htext := congrArg String.toList h.spelled
    cases piece with
    | slot key =>
      obtain ⟨hhas, hplain⟩ := h.keyed key List.mem_cons_self
      have hchars : text.toList = slotChars key ++ (spell slotText pieces).toList := by
        simpa [slotText] using htext.symm
      rw [scan, hchars, scanFrom_slotChars hhas hplain]
      exact congrArg (.slot key :: ·) hrest
    | char c =>
      have hchars : text.toList = c :: (spell slotText pieces).toList := by
        simpa using htext.symm
      have hnone : slotKey? has (c :: (spell slotText pieces).toList) = none := by
        refine Option.eq_none_iff_forall_ne_some.2 fun key hkey => ?_
        obtain ⟨hhas, hplain, rest, hcs⟩ := slotKey?_eq_some.1 hkey
        have hfirst : text = "" ++ slotText key ++ String.ofList rest :=
          String.toList_inj.1 (by simpa [slotText] using hchars.trans hcs)
        obtain ⟨front, back, hpieces, hfront, -⟩ := h.complete hhas hplain hfirst
        cases front with
        | nil => simp at hpieces
        | cons first front => exact spell_cons_ne_empty first front hfront
      rw [scan, hchars, scanFrom, hnone]
      exact congrArg (.char c :: ·) hrest

/-! ## Filling -/

/-- Filling spells the pieces with the values. -/
theorem fill_eq_spell (text : String) {values : Values} {value : String → String}
    (h : ∀ key, values.get? key = if has key then some (value key) else none) :
    fill text values = spell value (scan has text) := by
  have hhas : values.has = has := by
    funext key
    cases hkey : has key <;> simp [Values.has, h, hkey]
  have hpieces (pieces : List Piece) (hkeyed : ∀ key, .slot key ∈ pieces → has key = true) :
      String.ofList (pieces.flatMap (Piece.fill values)) = spell value pieces := by
    induction pieces with
    | nil => rfl
    | cons piece pieces ih =>
      have ih := ih fun key hkey => hkeyed key (List.mem_cons_of_mem _ hkey)
      rw [List.flatMap_cons, String.ofList_append, ih]
      cases piece with
      | char c => rfl
      | slot key => simp [Piece.fill, h, hkeyed key List.mem_cons_self]
  rw [fill, hhas]
  exact hpieces _ fun key hkey => (keyed_scanFrom hkey).1

/-- A template in which nothing is a slot is its own decomposition. -/
theorem spell_of_noSlot {text : String} {pieces : List Piece} (h : Decomposes has text pieces)
    (hnone : ∀ key before after, has key = true → IsPlain key →
      text ≠ before ++ slotText key ++ after) (value : String → String) :
    spell value pieces = text := by
  have hslot : ∀ key, .slot key ∉ pieces := by
    intro key hkey
    obtain ⟨hhas, hplain⟩ := h.keyed key hkey
    obtain ⟨front, back, rfl⟩ := List.append_of_mem hkey
    refine hnone key (spell slotText front) (spell slotText back) hhas hplain ?_
    rw [← h.spelled, spell_append, spell_slot, String.append_assoc]
  have hsame (pieces : List Piece) (hslot : ∀ key, .slot key ∉ pieces) :
      spell value pieces = spell slotText pieces := by
    induction pieces with
    | nil => rfl
    | cons piece pieces ih =>
      have ih := ih fun key hkey => hslot key (List.mem_cons_of_mem _ hkey)
      cases piece with
      | char c => simp [ih]
      | slot key => exact absurd List.mem_cons_self (hslot key)
  rw [hsame pieces hslot, h.spelled]

/-- The values that pairs give to keys, one pair after the other. -/
def valuesOf (pairs : List (String × String)) : Values :=
  pairs.foldl (fun values pair => values.set pair.1 pair.2) .empty

/-- The last pair of a key counts. -/
theorem get?_valuesOf (pairs : List (String × String)) (key : String) :
    (valuesOf pairs).get? key = pairs.reverse.lookup key := by
  have hpairs (values : Values) :
      (pairs.foldl (fun values pair => values.set pair.1 pair.2) values).pairs =
        pairs.reverse ++ values.pairs := by
    induction pairs generalizing values with
    | nil => rfl
    | cons pair pairs ih =>
      rw [List.foldl_cons, ih, List.reverse_cons, List.append_assoc]
      rfl
  rw [Values.get?, valuesOf, hpairs, Values.empty, List.append_nil]

/-- Filling replaces all slots at once: a template has pieces that depend on the keys alone, and
with the values between the literal ones it becomes the filled text. -/
theorem fill_replaces (has : String → Bool) (text : String) :
    (∃ pieces, Decomposes has text pieces ∧
      (∀ other, Decomposes has text other → other = pieces) ∧
      ∀ (values : Values) (value : String → String),
        (∀ key, values.get? key = if has key then some (value key) else none) →
          fill text values = spell value pieces) ∧
    (∀ values : Values, (∀ key before after, values.has key = true → IsPlain key →
      text ≠ before ++ slotText key ++ after) → fill text values = text) ∧
    ∀ pairs pairs' : List (String × String),
      (∀ key, pairs.reverse.lookup key = pairs'.reverse.lookup key) →
        fill text (valuesOf pairs) = fill text (valuesOf pairs') := by
  have hvalues (values : Values) (key : String) : values.get? key =
      if values.has key then some ((values.get? key).getD "") else none := by
    cases hkey : values.get? key <;> simp [Values.has, hkey]
  refine ⟨⟨scan has text, decomposes_scan has text, fun _ => Decomposes.eq_scan,
    fun _ _ => fill_eq_spell text⟩, ?_, ?_⟩
  · intro values hnone
    rw [fill_eq_spell text (hvalues values)]
    exact spell_of_noSlot (decomposes_scan _ text) hnone _
  · intro pairs pairs' hpairs
    have hget (key : String) : (valuesOf pairs).get? key = (valuesOf pairs').get? key := by
      rw [get?_valuesOf, get?_valuesOf, hpairs]
    have hhas : (valuesOf pairs).has = (valuesOf pairs').has := by
      funext key
      rw [Values.has, Values.has, hget]
    have hfill := fill_eq_spell text (hvalues (valuesOf pairs))
    have hfill' := fill_eq_spell text (hvalues (valuesOf pairs'))
    rw [hfill, hfill', hhas]
    simp only [hget]

/-- A slot inside an echo is filled with what looks like a slot, and the echo is kept. -/
theorem fill_replaces_echo :
    (∀ key, (Values.empty.set "k" "\x7b\x7bk\x7d\x7d").get? key =
      if decide (key = "k") then some "\x7b\x7bk\x7d\x7d" else none) ∧
    fill "\x7b\x7b to('\x7b\x7bk\x7d\x7d') \x7d\x7d\x7b\x7bx\x7d\x7d"
      (Values.empty.set "k" "\x7b\x7bk\x7d\x7d") =
        "\x7b\x7b to('\x7b\x7bk\x7d\x7d') \x7d\x7d\x7b\x7bx\x7d\x7d" := by
  have hget (key : String) : (Values.empty.set "k" "\x7b\x7bk\x7d\x7d").get? key =
      if decide (key = "k") then some "\x7b\x7bk\x7d\x7d" else none := by simp
  obtain ⟨⟨pieces, hpieces, -, hfill⟩, -, -⟩ := fill_replaces (fun key => decide (key = "k"))
    "\x7b\x7b to('\x7b\x7bk\x7d\x7d') \x7d\x7d\x7b\x7bx\x7d\x7d"
  refine ⟨hget, ?_⟩
  rw [hfill _ (fun _ => "\x7b\x7bk\x7d\x7d") hget, hpieces.eq_scan]
  decide

end CrudForge.Template
