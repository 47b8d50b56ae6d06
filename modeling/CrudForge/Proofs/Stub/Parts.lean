import CrudForge.Proofs.Stub.Template
import CrudForge.Proofs.Text.Cut
import CrudForge.Stub.Builtin
import Mathlib.Data.List.Infix

/-!
# Templates of texts and words

The slots of a template are found wherever they stand, also where a value meets the text around it.
A text is inert if no slot for a word starts in it, whatever stands behind it. Inert texts stay so
when they are put together, so a template of inert texts, filled with inert values, has no such slot
left.

## Main definitions

* `Template.isWordKey` — keys of ASCII letters.
* `Template.Inert` — texts in which no slot for a word starts.
* `Stub.Part.Inert` — inert texts, and slots for words.
-/

namespace CrudForge

namespace Template

/-! ## Scanning on both sides of a character -/

section Scan

variable {has : String → Bool} {key : String}

/-- Whether a text starts with a slot is not affected by a character that is in none. -/
theorem slotKey?_append_cons {c d : Char}
    (h : ∀ key, has key = true → IsPlain key → d ∉ slotChars key) (as bs : List Char) :
    slotKey? has (c :: as ++ d :: bs) = slotKey? has (c :: as) := by
  refine Option.ext fun key => ?_
  rw [slotKey?_eq_some, slotKey?_eq_some]
  constructor
  · rintro ⟨hhas, hplain, rest, hrest⟩
    refine ⟨hhas, hplain, ?_⟩
    rcases List.append_eq_append_iff.1 hrest with ⟨middle, hmiddle, hbehind⟩ | ⟨middle, hmiddle, -⟩
    · cases middle with
      | nil => exact ⟨[], by simpa using hmiddle.symm⟩
      | cons e middle =>
        -- the slot would reach over `d`
        obtain ⟨rfl, -⟩ := List.cons.inj hbehind
        exact absurd (by simp [hmiddle]) (h key hhas hplain)
    · exact ⟨middle, hmiddle⟩
  · rintro ⟨hhas, hplain, rest, hrest⟩
    exact ⟨hhas, hplain, rest ++ d :: bs, by rw [hrest, List.append_assoc]⟩

/-- A text in front that is not completed to slots is filled on its own. -/
theorem fill_append_of {values : Values} {a b : String}
    (h : ∀ c cs, c :: cs <:+ a.toList →
      slotKey? values.has (c :: cs ++ b.toList) = slotKey? values.has (c :: cs)) :
    fill (a ++ b) values = fill a values ++ fill b values := by
  unfold fill scan
  rw [String.toList_append, scanFrom_append_of h (Nat.zero_le _), List.flatMap_append,
    String.ofList_append]

/-- A character that is in no slot cuts a template into parts that are filled on their own. -/
theorem fill_append_cons {values : Values} {d : Char}
    (h : ∀ key, values.has key = true → IsPlain key → d ∉ slotChars key) (a b : String) :
    fill (a ++ String.singleton d ++ b) values =
      fill a values ++ String.singleton d ++ fill b values := by
  have hfirst : slotKey? values.has (d :: b.toList) = none := by
    refine Option.eq_none_iff_forall_ne_some.2 fun key hkey => ?_
    obtain ⟨hhas, hplain, rest, hrest⟩ := slotKey?_eq_some.1 hkey
    obtain ⟨rfl, -⟩ := List.cons.inj hrest
    exact h key hhas hplain (by simp [slotChars])
  have hbehind : fill (String.singleton d ++ b) values = String.singleton d ++ fill b values := by
    simp [fill, scan, scanFrom, hfirst, Piece.fill]
  have happend : fill (a ++ (String.singleton d ++ b)) values =
      fill a values ++ fill (String.singleton d ++ b) values :=
    fill_append_of fun _ _ _ => by
      simpa using slotKey?_append_cons h _ b.toList
  rw [String.append_assoc, happend, hbehind, String.append_assoc]

/-- Fewer keys find the same slots if they have a value for each that is there. -/
theorem scan_eq_scan {has' : String → Bool} {text : String}
    (hkeys : ∀ key, has key = true → has' key = true)
    (hslots : ∀ key, .slot key ∈ scan has' text → has key = true) :
    scan has text = scan has' text := by
  have hall := decomposes_scan has' text
  have hfewer : Decomposes has text (scan has' text) :=
    ⟨hall.spelled, fun key hkey => ⟨hslots key hkey, (hall.keyed key hkey).2⟩,
      fun hhas => hall.complete (hkeys _ hhas)⟩
  exact hfewer.eq_scan.symm

end Scan

/-! ## Inert texts -/

/-- The keys of slots for words: one or more ASCII letters. -/
def isWordKey (key : String) : Bool :=
  key ≠ "" && key.toList.all Char.isAlpha

/-- Whether `cs` starts like a slot for a word, as far as it goes. -/
def opensWord : List Char → Bool
  | ['\x7b'] => true
  | ['\x7b', '\x7b'] => true
  | '\x7b' :: '\x7b' :: c :: _ => c.isAlpha
  | _ => false

/-- In `s` no slot for a word starts, whatever stands behind it. -/
def Inert (s : String) : Prop :=
  ∀ cs, cs <:+ s.toList → opensWord cs = false

section Inert

variable {s t key : String}

theorem opensWord_of_ne {c : Char} {cs : List Char} (h : c ≠ '\x7b') :
    opensWord (c :: cs) = false := by
  unfold opensWord
  split <;> simp_all

theorem opensWord_append {cs bs : List Char} (hne : cs ≠ []) (h : opensWord cs = false) :
    opensWord (cs ++ bs) = false := by
  match cs with
  | [] => exact absurd rfl hne
  | [c] =>
    refine opensWord_of_ne fun hc => ?_
    simp [hc, opensWord] at h
  | [c, d] =>
    by_cases hc : c = '\x7b'
    · by_cases hd : d = '\x7b'
      · simp [hc, hd, opensWord] at h
      · subst hc
        cases bs <;> simp [opensWord, hd]
    · exact opensWord_of_ne hc
  | c :: d :: e :: cs =>
    by_cases hc : c = '\x7b'
    · by_cases hd : d = '\x7b'
      · simpa [hc, hd, opensWord] using h
      · simp [hc, hd, opensWord]
    · exact opensWord_of_ne hc

theorem Inert.append (hs : Inert s) (ht : Inert t) : Inert (s ++ t) := by
  intro cs hcs
  rw [String.toList_append] at hcs
  rcases Text.suffix_append_cases hcs with hcs | ⟨front, hne, hfront, rfl⟩
  · exact ht cs hcs
  · exact opensWord_append hne (hs front hfront)

/-- A fixed text is looked at in each of its places. -/
theorem inert_ofList {cs : List Char} (h : cs.tails.all (!opensWord ·) = true) :
    Inert (String.ofList cs) := by
  intro ds hds
  rw [String.toList_ofList] at hds
  simpa using List.all_eq_true.1 h ds ((List.mem_tails _ _).2 hds)

theorem inert_empty : Inert "" :=
  inert_ofList rfl

theorem inert_of_notMem (h : '{' ∉ s.toList) : Inert s := by
  intro cs hcs
  cases cs with
  | nil => rfl
  | cons c cs =>
    refine opensWord_of_ne ?_
    rintro rfl
    exact h (hcs.subset List.mem_cons_self)

theorem inert_concat {texts : List String} (h : ∀ text ∈ texts, Inert text) :
    Inert (Text.concat texts) := by
  induction texts with
  | nil => exact inert_empty
  | cons text texts ih =>
    obtain ⟨htext, htexts⟩ := List.forall_mem_cons.1 h
    exact htext.append (ih htexts)

theorem opensWord_slotChars (h : isWordKey key = true) (rest : List Char) :
    opensWord (slotChars key ++ rest) = true := by
  rw [isWordKey, Bool.and_eq_true, decide_eq_true_eq] at h
  obtain ⟨c, cs, hcs⟩ := List.exists_cons_of_ne_nil (l := key.toList) (by simpa using h.1)
  have hc := List.all_eq_true.1 h.2 c (by simp [hcs])
  simpa [slotChars, hcs, opensWord] using hc

/-- No slot for a word is written anywhere in an inert text. -/
theorem Inert.ne_slot (hs : Inert s) (h : isWordKey key = true) (before after : String) :
    s ≠ before ++ slotText key ++ after := by
  rintro rfl
  have hopens := hs (slotChars key ++ after.toList) ⟨before.toList, by simp [slotText]⟩
  rw [opensWord_slotChars h] at hopens
  simp at hopens

/-- An inert text in front of a template is copied when that is scanned for words. -/
theorem Inert.scanFrom_append (hs : Inert s) (bs : List Char) :
    scanFrom isWordKey 0 (s.toList ++ bs) = s.toList.map .char ++ scanFrom isWordKey 0 bs := by
  have hcopied (as : List Char) (has : as <:+ s.toList) :
      scanFrom isWordKey 0 (as ++ bs) = as.map .char ++ scanFrom isWordKey 0 bs := by
    induction as with
    | nil => rfl
    | cons c as ih =>
      have hnone : slotKey? isWordKey (c :: (as ++ bs)) = none := by
        refine Option.eq_none_iff_forall_ne_some.2 fun key hkey => ?_
        obtain ⟨hword, -, rest, hrest⟩ := slotKey?_eq_some.1 hkey
        have hopens : opensWord (c :: as ++ bs) = false :=
          opensWord_append (List.cons_ne_nil c as) (hs _ has)
        rw [List.cons_append, hrest, opensWord_slotChars hword] at hopens
        simp at hopens
      rw [List.cons_append, scanFrom, hnone]
      exact congrArg _ (ih ((List.suffix_cons c as).trans has))
  exact hcopied s.toList (List.suffix_refl _)

theorem isPlain_of_isWordKey (h : isWordKey key = true) : IsPlain key := by
  rw [isWordKey, Bool.and_eq_true] at h
  intro c hc
  have hletter := List.all_eq_true.1 h.2 c hc
  simp only [isKeyChar, Bool.and_eq_true, decide_eq_true_eq]
  refine ⟨⟨?_, ?_⟩, ?_⟩
  all_goals
    rintro rfl
    exact absurd hletter (by decide)

/-- A space is in no slot for a word. -/
theorem space_notMem_slotChars (h : isWordKey key = true) : ' ' ∉ slotChars key := by
  rw [isWordKey, Bool.and_eq_true] at h
  have hkey : ' ' ∉ key.toList := fun hmem => absurd (List.all_eq_true.1 h.2 _ hmem) (by decide)
  simp [slotChars, hkey]

end Inert

end Template

/-! ## Filling words -/

/-- The value of a key, or nothing. -/
def Values.value (values : Values) (key : String) : String :=
  (values.get? key).getD ""

theorem Values.get?_eq_value (values : Values) (key : String) :
    values.get? key = if values.has key then some (values.value key) else none := by
  cases hkey : values.get? key <;> simp [has, value, hkey]

namespace Template

section Words

variable {values : Values} {text : String}

/-- Where all slots for words have values, they are the slots that are filled. -/
theorem fill_eq_spell_of_words (hwords : ∀ key, values.has key = true → isWordKey key = true)
    (hslots : ∀ key, .slot key ∈ scan isWordKey text → values.has key = true) :
    fill text values = spell values.value (scan isWordKey text) := by
  rw [fill_eq_spell text values.get?_eq_value, scan_eq_scan hwords hslots]

/-- An inert text has nothing to fill. -/
theorem Inert.fill_eq (h : Inert text)
    (hwords : ∀ key, values.has key = true → isWordKey key = true) : fill text values = text := by
  rw [fill_eq_spell text values.get?_eq_value]
  exact spell_of_noSlot (decomposes_scan _ text)
    (fun key before after hhas _ => h.ne_slot (hwords key hhas) before after) _

end Words

end Template

namespace Stub

open Template

/-! ## Parts -/

namespace Part

/-- Texts have to be inert, and slots are for words. -/
def Inert : Part → Prop
  | text s => Template.Inert s
  | slot key => isWordKey key = true

/-- The characters or the slot of a part. -/
def pieces : Part → List Piece
  | text s => s.toList.map .char
  | slot key => [.slot key]

/-- The part with a value in place of a slot. -/
def filled (value : String → String) : Part → String
  | text s => s
  | slot key => value key

end Part

section Print

variable {template : List Part}

theorem inert_cons_text {cs : List Char} (hcs : cs.tails.all (!opensWord ·) = true)
    (h : ∀ part ∈ template, part.Inert) :
    ∀ part ∈ .text (String.ofList cs) :: template, part.Inert :=
  List.forall_mem_cons.2 ⟨inert_ofList hcs, h⟩

theorem inert_cons_slot {key : String} (hkey : isWordKey key = true)
    (h : ∀ part ∈ template, part.Inert) : ∀ part ∈ .slot key :: template, part.Inert :=
  List.forall_mem_cons.2 ⟨hkey, h⟩

/-- A template is scanned part by part. -/
theorem scan_print (h : ∀ part ∈ template, part.Inert) :
    scan isWordKey (print template) = template.flatMap Part.pieces := by
  unfold scan
  induction template with
  | nil => rfl
  | cons part template ih =>
    obtain ⟨hpart, htemplate⟩ := List.forall_mem_cons.1 h
    have ih := ih htemplate
    have hprint : (print (part :: template)).toList =
        part.print.toList ++ (print template).toList := String.toList_append
    rw [hprint, List.flatMap_cons]
    cases part with
    | text s =>
      have hs : Template.Inert s := hpart
      rw [Part.print, hs.scanFrom_append, ih]
      rfl
    | slot key =>
      have hslot : (Part.slot key).print.toList = slotChars key := by
        simp [Part.print, slotChars]
      rw [hslot, scanFrom_slotChars hpart (isPlain_of_isWordKey hpart), ih]
      rfl

theorem spell_pieces (value : String → String) (template : List Part) :
    spell value (template.flatMap Part.pieces) =
      Text.concat (template.map (Part.filled value)) := by
  have hchars (cs : List Char) : spell value (cs.map .char) = String.ofList cs := by
    induction cs with
    | nil => rfl
    | cons c cs ih => simp [ih]
  induction template with
  | nil => rfl
  | cons part template ih =>
    rw [List.flatMap_cons, spell_append, ih]
    cases part with
    | text s => simp [Part.pieces, hchars, Part.filled, Text.concat]
    | slot key => simp [Part.pieces, Part.filled, Text.concat]

theorem slot_mem_pieces {key : String} :
    .slot key ∈ template.flatMap Part.pieces ↔ .slot key ∈ template := by
  rw [List.mem_flatMap]
  constructor
  · rintro ⟨part, hpart, hkey⟩
    cases part with
    | text s => simp [Part.pieces] at hkey
    | slot other =>
      obtain rfl := Piece.slot.inj (List.mem_singleton.1 hkey)
      exact hpart
  · exact fun hkey => ⟨_, hkey, List.mem_singleton_self _⟩

/-- A template is filled part by part. -/
theorem fill_print {values : Values} (hinert : ∀ part ∈ template, part.Inert)
    (hwords : ∀ key, values.has key = true → isWordKey key = true)
    (hslots : ∀ key, .slot key ∈ template → values.has key = true) :
    fill (print template) values =
      Text.concat (template.map (Part.filled values.value)) := by
  have hscan := scan_print hinert
  have hfilled : fill (print template) values = spell values.value (scan isWordKey _) :=
    fill_eq_spell_of_words hwords fun key hkey => hslots key (slot_mem_pieces.1 (hscan ▸ hkey))
  rw [hfilled, hscan, spell_pieces]

end Print

end Stub

end CrudForge
