import CrudForge.Text.Blank
import CrudForge.Proofs.Text.Ascii

/-!
# Upper case

Upper case makes no character of ASCII but capital letters. Every other one of them, a brace for
example, stands in a text in upper case only where it stood before. Upper case neither changes
blanks nor makes any, and it changes nothing that it has made.

## Main definitions

* `Text.upperSources` — the characters that upper case changes.
* `Text.upperImages` — the characters that it makes of them.
-/

namespace CrudForge.Text

/-- Capital letters of ASCII, and characters outside ASCII. -/
def isUpperImage (n : Nat) : Bool :=
  ('A'.toNat ≤ n && n ≤ 'Z'.toNat) || (127 < n && decide n.isValidChar)

/-- Rows for which the images have no other characters. A row with more than one image has none
in ASCII, and a whole run of images is on one side of the surrogates. -/
def CaseRow.isUpper (row : CaseRow) : Bool :=
  (row.first = row.last && isUpperImage row.target) ||
    (127 < row.target && row.last + row.target < row.first + 0xD800) ||
    (0xDFFF < row.target && row.last + row.target < row.first + 0x110000)

theorem isUpper_upperRows : ∀ row ∈ upperRows, row.isUpper = true := by
  decide +kernel

theorem isUpperImage_upperExpansions :
    ∀ expansion ∈ upperExpansions, ∀ n ∈ expansion.2, isUpperImage n = true := by
  decide

theorem CaseRow.isUpperImage_of_image? {row : CaseRow} (h : row.isUpper = true) {n m : Nat}
    (hm : row.image? n = some m) : isUpperImage m = true := by
  unfold image? at hm
  split at hm
  · rename_i hn
    obtain rfl := Option.some.inj hm
    simp only [isUpper, Bool.or_eq_true, Bool.and_eq_true, decide_eq_true_eq] at h
    rcases h with (⟨hone, htarget⟩ | ⟨hascii, hlast⟩) | ⟨hascii, hlast⟩
    · have hfirst : n - row.first + row.target = row.target := by omega
      rwa [hfirst]
    all_goals
      simp only [isUpperImage, Nat.isValidChar, Bool.or_eq_true, Bool.and_eq_true,
        decide_eq_true_eq]
      omega
  · simp at hm

theorem toNat_ofNat_of_isUpperImage {n : Nat} (h : isUpperImage n = true) :
    (Char.ofNat n).toNat = n := by
  have hvalid : n.isValidChar := by
    simp only [isUpperImage, Char.reduceToNat, Nat.isValidChar, Bool.or_eq_true, Bool.and_eq_true,
      decide_eq_true_eq] at h ⊢
    omega
  rw [Char.ofNat, dif_pos hvalid]
  rfl

theorem ofNat_of_isUpperImage {n : Nat} (h : isUpperImage n = true) :
    (Char.ofNat n).isUpper = true ∨ 127 < (Char.ofNat n).toNat := by
  have hn := toNat_ofNat_of_isUpperImage h
  simp only [isUpperImage, Bool.or_eq_true, Bool.and_eq_true, decide_eq_true_eq] at h
  rcases h with ⟨hfirst, hlast⟩ | ⟨hascii, -⟩
  · have hletters : ∀ m < 91, 65 ≤ m → (Char.ofNat m).isUpper = true := by decide
    exact .inl (hletters n (Nat.lt_succ_of_le hlast) hfirst)
  · right
    rwa [hn]

/-- Upper case leaves a character as it is, or it goes by the letters of ASCII, by an expansion or
by a row. -/
theorem upperOf_cases (c : Char) :
    upperOf c = [c] ∨
    (c.isLower = true ∧ c.toUpper.isUpper = true ∧ upperOf c = [c.toUpper]) ∨
    (∃ ns, (c.toNat, ns) ∈ upperExpansions ∧ upperOf c = ns.map Char.ofNat) ∨
    ∃ row ∈ upperRows, ∃ n, row.image? c.toNat = some n ∧ upperOf c = [Char.ofNat n] := by
  by_cases hascii : c.toNat ≤ 127
  · rw [upperOf_of_ascii hascii]
    rcases toUpper_of_ascii hascii with hself | ⟨hlower, hcapital⟩
    · exact .inl (by rw [hself])
    · exact .inr (.inl ⟨hlower, hcapital, rfl⟩)
  · rw [upperOf, if_neg hascii]
    unfold mapCase
    split
    · rename_i ns hns
      obtain ⟨front, back, hsplit, -⟩ := List.lookup_eq_some_iff.1 hns
      exact .inr (.inr (.inl ⟨ns, by simp [hsplit], rfl⟩))
    · cases hrow : upperRows.findSome? (·.image? c.toNat) with
      | none => exact .inl (by simp)
      | some n =>
        obtain ⟨row, hmem, himage⟩ := List.exists_of_findSome?_eq_some hrow
        exact .inr (.inr (.inr ⟨row, hmem, n, himage, rfl⟩))

/-- Upper case makes a capital letter of ASCII, a character outside ASCII, or nothing new. -/
theorem mem_upperOf {c d : Char} (h : d ∈ upperOf c) :
    d = c ∨ d.isUpper = true ∨ 127 < d.toNat := by
  rcases upperOf_cases c with hself | ⟨-, hcapital, hupper⟩ | ⟨ns, hns, hupper⟩ |
    ⟨row, hrow, n, himage, hupper⟩
  · rw [hself] at h
    exact .inl (List.mem_singleton.1 h)
  · rw [hupper] at h
    obtain rfl := List.mem_singleton.1 h
    exact .inr (.inl hcapital)
  · rw [hupper] at h
    obtain ⟨n, hn, rfl⟩ := List.mem_map.1 h
    exact .inr (ofNat_of_isUpperImage (isUpperImage_upperExpansions _ hns n hn))
  · rw [hupper] at h
    obtain rfl := List.mem_singleton.1 h
    exact .inr (ofNat_of_isUpperImage
      (CaseRow.isUpperImage_of_image? (isUpper_upperRows row hrow) himage))

/-- A character of ASCII that is no capital letter is not made by upper case. -/
theorem eq_of_mem_upperOf {c d : Char} (h : d ∈ upperOf c) (hletter : d.isUpper = false)
    (hascii : d.toNat ≤ 127) : d = c := by
  rcases mem_upperOf h with heq | hupper | hout
  · exact heq
  · rw [hletter] at hupper
    exact absurd hupper (by simp)
  · omega

/-! ## What upper case changes, and what it makes -/

/-- As many numbers as the row has characters, as far apart as they are. -/
def CaseRow.run (row : CaseRow) (start : Nat) : List Nat :=
  List.range' start ((row.last - row.first) / row.step + 1) row.step

theorem CaseRow.mem_run_of_image? {row : CaseRow} {n m : Nat} (h : row.image? n = some m) :
    n ∈ row.run row.first ∧ m ∈ row.run row.target := by
  unfold image? at h
  split at h
  · rename_i hn
    obtain ⟨hfirst, hlast, hstep⟩ := hn
    obtain rfl := Option.some.inj h
    have hcount : (n - row.first) / row.step < (row.last - row.first) / row.step + 1 :=
      Nat.lt_succ_of_le (Nat.div_le_div_right (by omega))
    have hplace : row.step * ((n - row.first) / row.step) = n - row.first :=
      Nat.mul_div_cancel' (Nat.dvd_of_mod_eq_zero hstep)
    exact ⟨List.mem_range'.2 ⟨_, hcount, by omega⟩, List.mem_range'.2 ⟨_, hcount, by omega⟩⟩
  · simp at h

/-- The characters that upper case changes. -/
def upperSources : List Nat :=
  List.range' 0x61 26 ++ upperExpansions.map (·.1) ++
    upperRows.flatMap fun row => row.run row.first

/-- The characters that upper case makes of those that it changes. -/
def upperImages : List Nat :=
  List.range' 0x41 26 ++ upperExpansions.flatMap (·.2) ++
    upperRows.flatMap fun row => row.run row.target

/-- The blank characters. -/
def blanks : List Nat :=
  List.range' 9 5 ++ [0x20, 0x85, 0xA0, 0x1680] ++ List.range' 0x2000 11 ++
    [0x2028, 0x2029, 0x202F, 0x205F, 0x3000]

theorem isBlank_iff {c : Char} : isBlank c = true ↔ c.toNat ∈ blanks := by
  simp only [isBlank, blanks, List.mem_append, List.mem_range'_1, List.mem_cons, List.not_mem_nil,
    or_false, Bool.or_eq_true, Bool.and_eq_true, decide_eq_true_eq]
  omega

theorem upperOf_of_notMem_upperSources {c : Char} (h : c.toNat ∉ upperSources) :
    upperOf c = [c] := by
  simp only [upperSources, List.mem_append, not_or] at h
  obtain ⟨⟨hletters, hexpansions⟩, hrows⟩ := h
  rcases upperOf_cases c with hself | ⟨hlower, -⟩ | ⟨ns, hns, -⟩ | ⟨row, hrow, n, himage, -⟩
  · exact hself
  · exact absurd (List.mem_range'_1.2 ((codes c).2.1 hlower)) hletters
  · exact absurd (List.mem_map_of_mem hns) hexpansions
  · exact absurd (List.mem_flatMap_of_mem hrow (CaseRow.mem_run_of_image? himage).1) hrows

/-- What upper case makes of a character is that character alone, or new throughout. -/
theorem upperOf_eq_self_or (c : Char) :
    upperOf c = [c] ∨ ∀ d ∈ upperOf c, d.toNat ∈ upperImages := by
  simp only [upperImages, List.mem_append]
  rcases upperOf_cases c with hself | ⟨-, hcapital, hupper⟩ | ⟨ns, hns, hupper⟩ |
    ⟨row, hrow, n, himage, hupper⟩
  · exact .inl hself
  · right
    rw [hupper, List.forall_mem_singleton]
    exact .inl (.inl (List.mem_range'_1.2 ((codes _).1 hcapital)))
  · right
    rw [hupper, List.forall_mem_map]
    intro n hn
    rw [toNat_ofNat_of_isUpperImage (isUpperImage_upperExpansions _ hns n hn)]
    exact .inl (.inr (List.mem_flatMap_of_mem hns hn))
  · right
    rw [hupper, List.forall_mem_singleton, toNat_ofNat_of_isUpperImage
      (CaseRow.isUpperImage_of_image? (isUpper_upperRows row hrow) himage)]
    exact .inr (List.mem_flatMap_of_mem hrow (CaseRow.mem_run_of_image? himage).2)

/-- The numbers of a list as the bits of one number. -/
def bitSet (ns : List Nat) : Nat :=
  ns.foldr (fun n bits => 1 <<< n ||| bits) 0

theorem testBit_bitSet {ns : List Nat} {n : Nat} : (bitSet ns).testBit n = true ↔ n ∈ ns := by
  induction ns with
  | nil => simp [bitSet]
  | cons m ns ih =>
    rw [bitSet, List.foldr_cons, Nat.testBit_or, ← bitSet, Bool.or_eq_true, ih, List.mem_cons,
      Nat.one_shiftLeft, Nat.testBit_two_pow, decide_eq_true_eq, eq_comm]

/-- Lists have no member in common if their numbers have no bit in common. For the tables this is
one step, where a comparison of their rows two by two would be forty thousand. -/
theorem notMem_of_land_eq_zero {ms ns : List Nat} (h : bitSet ms &&& bitSet ns = 0) {n : Nat}
    (hn : n ∈ ms) : n ∉ ns := by
  intro hn'
  have hbit := congrArg (·.testBit n) h
  simp [testBit_bitSet.2 hn, testBit_bitSet.2 hn'] at hbit

/-- What upper case has made it does not change, and none of it is blank. -/
theorem upperImages_land : bitSet upperImages &&& bitSet (upperSources ++ blanks) = 0 := by
  decide +kernel

theorem blanks_land : bitSet blanks &&& bitSet upperSources = 0 := by
  decide +kernel

theorem upperOf_of_isBlank {c : Char} (h : isBlank c = true) : upperOf c = [c] :=
  upperOf_of_notMem_upperSources (notMem_of_land_eq_zero blanks_land (isBlank_iff.1 h))

/-- What is in upper case was there before and stays, or is new, and then neither a character that
upper case changes nor a blank. -/
theorem mem_upperOf_cases {c d : Char} (hd : d ∈ upperOf c) :
    (d = c ∧ upperOf c = [c]) ∨ (d.toNat ∉ upperSources ∧ d.toNat ∉ blanks) := by
  rcases upperOf_eq_self_or c with hself | himages
  · rw [hself] at hd
    exact .inl ⟨List.mem_singleton.1 hd, hself⟩
  · have hout := notMem_of_land_eq_zero upperImages_land (himages d hd)
    rw [List.mem_append, not_or] at hout
    exact .inr hout

/-- Upper case makes no blank. -/
theorem not_isBlank_of_mem_upperOf {c d : Char} (h : isBlank c = false) (hd : d ∈ upperOf c) :
    isBlank d = false := by
  obtain ⟨rfl, -⟩ | ⟨-, hblank⟩ := mem_upperOf_cases hd
  · exact h
  · rw [← isBlank_iff] at hblank
    simpa using hblank

/-- Upper case does not change what it has made. -/
theorem upperOf_of_mem_upperOf {c d : Char} (hd : d ∈ upperOf c) : upperOf d = [d] := by
  obtain ⟨rfl, hself⟩ | ⟨hchanged, -⟩ := mem_upperOf_cases hd
  · exact hself
  · exact upperOf_of_notMem_upperSources hchanged

theorem upperOf_ne_nil (c : Char) : upperOf c ≠ [] := by
  have hexpansions : ∀ expansion ∈ upperExpansions, expansion.2 ≠ [] := by decide
  rcases upperOf_cases c with hself | ⟨-, -, hupper⟩ | ⟨ns, hns, hupper⟩ |
    ⟨-, -, n, -, hupper⟩
  · simp [hself]
  · simp [hupper]
  · simpa [hupper] using hexpansions _ hns
  · simp [hupper]

end CrudForge.Text
