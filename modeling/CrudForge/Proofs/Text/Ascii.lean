import CrudForge.Text.Case

/-!
# Characters of ASCII

What holds of all characters of ASCII is looked up for one after the other. Each of them has one
upper and one lower case.
-/

namespace CrudForge.Text

variable {c : Char}

theorem forall_ascii {P : Char → Prop} (h : ∀ n < 128, P (Char.ofNat n)) (hc : c.toNat ≤ 127) :
    P c := by
  rw [← Char.ofNat_toNat c]
  exact h c.toNat (Nat.lt_succ_of_le hc)

/-- The letters of each case and the digits stand in a row. -/
theorem codes (c : Char) :
    (c.isUpper = true → 0x41 ≤ c.toNat ∧ c.toNat < 0x41 + 26) ∧
    (c.isLower = true → 0x61 ≤ c.toNat ∧ c.toNat < 0x61 + 26) ∧
    (c.isDigit = true → 0x30 ≤ c.toNat ∧ c.toNat < 0x30 + 10) := by
  refine ⟨fun h => ?_, fun h => ?_, fun h => ?_⟩
  · obtain ⟨hfirst, hlast⟩ := of_decide_eq_true h
    exact ⟨hfirst, Nat.lt_succ_of_le hlast⟩
  · obtain ⟨hfirst, hlast⟩ := Bool.and_eq_true_iff.1 h
    exact ⟨of_decide_eq_true hfirst, Nat.lt_succ_of_le (of_decide_eq_true hlast)⟩
  · obtain ⟨hfirst, hlast⟩ := Bool.and_eq_true_iff.1 h
    exact ⟨of_decide_eq_true hfirst, Nat.lt_succ_of_le (of_decide_eq_true hlast)⟩

theorem isAlphanum_eq (c : Char) : c.isAlphanum = (c.isUpper || c.isLower || c.isDigit) :=
  rfl

theorem toNat_le_of_isAlphanum (h : c.isAlphanum = true) : c.toNat ≤ 127 := by
  have hcodes := codes c
  rw [isAlphanum_eq, Bool.or_eq_true, Bool.or_eq_true] at h
  grind

theorem upperOf_of_ascii (h : c.toNat ≤ 127) : upperOf c = [c.toUpper] :=
  if_pos h

theorem lowerOf_of_ascii (h : c.toNat ≤ 127) : lowerOf c = [c.toLower] :=
  if_pos h

/-- Upper case makes capital letters of small ones. -/
theorem toUpper_of_ascii (h : c.toNat ≤ 127) :
    c.toUpper = c ∨ (c.isLower = true ∧ c.toUpper.isUpper = true) :=
  forall_ascii (P := fun c => c.toUpper = c ∨ (c.isLower = true ∧ c.toUpper.isUpper = true))
    (by decide) h

end CrudForge.Text
