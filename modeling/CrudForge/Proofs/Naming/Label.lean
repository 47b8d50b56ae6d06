import CrudForge.Naming.Basic
import CrudForge.Proofs.Text.Upper

/-!
# Labels of names

A character of ASCII that is neither a capital letter nor a space gets into a label from the name
alone. A plain name has ASCII letters, digits and underscores alone. Its label has ASCII letters,
digits and spaces alone, so no character that has a meaning in markup gets into a heading.

## Main definitions

* `Naming.spaced` — a character of a name, with a space for an underscore.
* `Naming.isPlain` — plain names.
-/

namespace CrudForge.Naming

theorem mem_of_mem_capitalise {atStart : Bool} {cs : List Char} {d : Char}
    (hletter : d.isUpper = false) (hascii : d.toNat ≤ 127) (h : d ∈ capitalise atStart cs) :
    d ∈ cs := by
  induction cs generalizing atStart with
  | nil => simp [capitalise] at h
  | cons c cs ih =>
    rw [capitalise, List.mem_append] at h
    rcases h with h | h
    · split at h
      · rw [Text.eq_of_mem_upperOf h hletter hascii]
        exact List.mem_cons_self
      · obtain rfl := List.mem_singleton.1 h
        exact List.mem_cons_self
    · exact List.mem_cons_of_mem c (ih h)

/-- A space for an underscore. -/
def spaced (c : Char) : Char :=
  if c = '_' then ' ' else c

theorem toList_label (name : String) :
    (label name).toList = capitalise true (name.toList.map spaced) := by
  rw [label, String.toList_ofList]
  rfl

/-- A label has no such character that the name does not have. -/
theorem notMem_label_of_notMem {name : String} {d : Char} (hletter : d.isUpper = false)
    (hascii : d.toNat ≤ 127) (hspace : d ≠ ' ') (h : d ∉ name.toList) :
    d ∉ (label name).toList := by
  intro hmem
  rw [toList_label] at hmem
  obtain ⟨c, hc, hcd⟩ := List.mem_map.1 (mem_of_mem_capitalise hletter hascii hmem)
  unfold spaced at hcd
  split at hcd
  · exact hspace hcd.symm
  · exact h (hcd ▸ hc)

/-- Names of ASCII letters, digits and underscores. -/
def isPlain (name : String) : Bool :=
  name.toList.all fun c => c.isAlphanum || c = '_'

theorem notMem_of_isPlain {name : String} {c : Char} (h : isPlain name = true)
    (hc : c.isAlphanum = false) (hunderscore : c ≠ '_') : c ∉ name.toList := by
  intro hmem
  have hplain := List.all_eq_true.1 h c hmem
  simp [hc, hunderscore] at hplain

/-- Upper case takes letters and digits to letters and digits, one to one. -/
theorem upperOf_of_isAlphanum {c : Char} (h : c.isAlphanum = true) :
    Text.upperOf c = [c.toUpper] ∧ c.toUpper.isAlphanum = true := by
  have hascii := Text.toNat_le_of_isAlphanum h
  refine ⟨Text.upperOf_of_ascii hascii, ?_⟩
  rcases Text.toUpper_of_ascii hascii with hself | ⟨-, hcapital⟩
  · rwa [hself]
  · simp [Text.isAlphanum_eq, hcapital]

theorem mem_capitalise {cs : List Char} (h : ∀ c ∈ cs, c.isAlphanum = true ∨ c = ' ')
    (atStart : Bool) : ∀ c ∈ capitalise atStart cs, c.isAlphanum = true ∨ c = ' ' := by
  induction cs generalizing atStart with
  | nil => simp [capitalise]
  | cons c cs ih =>
    obtain ⟨hc, hcs⟩ := List.forall_mem_cons.1 h
    rw [capitalise, List.forall_mem_append]
    refine ⟨?_, ih hcs _⟩
    split
    · rcases hc with hc | rfl
      · obtain ⟨hupper, halphanum⟩ := upperOf_of_isAlphanum hc
        simp [hupper, halphanum]
      · have hspace : Text.upperOf ' ' = [' '] := rfl
        simp [hspace]
    · simpa using hc

theorem notMem_label {name : String} {c : Char} (h : isPlain name = true)
    (hc : c.isAlphanum = false) (hspace : c ≠ ' ') : c ∉ (label name).toList := by
  intro hmem
  have hspaced : ∀ d ∈ name.toList.map spaced, d.isAlphanum = true ∨ d = ' ' := by
    refine List.forall_mem_map.2 fun d hd => ?_
    have hplain := List.all_eq_true.1 h d hd
    by_cases hunderscore : d = '_' <;> simp_all [spaced]
  have hlabel := mem_capitalise hspaced true c (by rwa [toList_label] at hmem)
  simp [hc, hspace] at hlabel

end CrudForge.Naming
