import CrudForge.Field.List
import CrudForge.Proofs.Text.Cut
import CrudForge.Proofs.Markup.Control

/-!
# Required fields

That a field needs a value is said twice: the control of the form has an attribute for it, and the
rule text of the controller names the rule. The rule text is read between its bars. A rule that has
bars itself falls apart there, and what it hides from the form is enforced nevertheless.

## Main definitions

* `Field.enforced` — the rules that are read from the rule text of a field.
* `Markup.Demands` — the control of a field has the attribute that demands a value.
* `Field.Agrees` — form and controller take the same rules for those of the field.
-/

namespace CrudForge

open Text

/-- The rules that are read from the rule text, between the bars. A field without rules has no entry
among those of the controller. -/
def Field.enforced (field : Field) : List String :=
  if field.rules = [] then [] else cut '|' field.ruleText

/-- Behind the other attributes in the opening tag of its control, the form group of the field has
the one that demands a value. -/
def Markup.Demands (field : Field) (mode : ViewMode) : Prop :=
  ∃ behind, formGroup field mode = groupHead field ++ identity field.name ++
    attributes field mode ++ " required" ++ behind

/-- The rules of the field are enforced as they are, and the form demands a value if and only if the
controller does. -/
structure Field.Agrees (field : Field) : Prop where
  enforced_eq : field.enforced = field.rules
  demands_iff : ∀ mode, Markup.Demands field mode ↔ "required" ∈ field.enforced

section Agreement

variable {field : Field} {rule : String}

/-- What is enforced is what stands between the bars of the rules. -/
theorem Field.enforced_eq_flatMap (field : Field) :
    field.enforced = field.rules.flatMap (cut '|') := by
  unfold enforced
  split
  · rename_i hrules
    simp [hrules]
  · rename_i hrules
    exact cut_join_eq_flatMap hrules

theorem Field.mem_enforced :
    rule ∈ field.enforced ↔ ∃ written ∈ field.rules, rule ∈ cut '|' written := by
  rw [enforced_eq_flatMap, List.mem_flatMap]

/-- The rules are enforced as they are if and only if none of them falls apart. -/
theorem Field.enforced_eq_rules_iff :
    field.enforced = field.rules ↔ ∀ rule ∈ field.rules, '|' ∉ rule.toList := by
  rw [enforced_eq_flatMap]
  refine ⟨fun heq rule hrule => ?_, flatMap_cut_of_notMem⟩
  rw [← heq] at hrule
  obtain ⟨written, -, hpiece⟩ := List.mem_flatMap.1 hrule
  exact notMem_of_mem_cut hpiece

/-- The attribute stands for the very word among the rules. -/
theorem Markup.demands_iff_mem {mode : ViewMode} :
    Demands field mode ↔ "required" ∈ field.rules := by
  have hrequired : field.isRequired = true ↔ "required" ∈ field.rules := by
    simp [Field.isRequired]
  rw [← hrequired, Demands, formGroup_eq]
  constructor
  · rintro ⟨behind, heq⟩
    refine Classical.not_not.1 fun hnot => ?_
    have hchars := congrArg String.toList heq
    simp [required, hnot] at hchars
  · intro h
    refine ⟨">" ++ groupRest field mode, ?_⟩
    simp only [required, h, if_true, String.append_assoc]

/-- What the form demands is enforced. -/
theorem Field.required_mem_enforced (h : "required" ∈ field.rules) :
    "required" ∈ field.enforced :=
  mem_enforced.2 ⟨"required", h, by decide⟩

/-- Form and controller agree about a field if and only if no rule of it has a bar. The form never
demands more than the controller, and it demands less only where a rule with a bar hides the
word. -/
theorem Field.agrees_iff (field : Field) :
    (field.Agrees ↔ ∀ rule ∈ field.rules, '|' ∉ rule.toList) ∧
    (∀ mode, Markup.Demands field mode → "required" ∈ field.enforced) ∧
    ∀ mode, ("required" ∈ field.enforced ∧ ¬Markup.Demands field mode) ↔
      "required" ∉ field.rules ∧
        ∃ rule ∈ field.rules, '|' ∈ rule.toList ∧ "required" ∈ cut '|' rule := by
  refine ⟨⟨fun h => enforced_eq_rules_iff.1 h.enforced_eq, fun hbars => ?_⟩,
    fun mode h => required_mem_enforced (Markup.demands_iff_mem.1 h), fun mode => ?_⟩
  · have henforced := enforced_eq_rules_iff.2 hbars
    refine ⟨henforced, fun mode => ?_⟩
    rw [Markup.demands_iff_mem, henforced]
  · rw [Markup.demands_iff_mem, mem_enforced, and_comm]
    refine and_congr_right fun hno => ⟨?_, ?_⟩
    · rintro ⟨rule, hrule, hpiece⟩
      -- a rule without a bar is its only part, and the word itself is no rule
      refine ⟨rule, hrule, Classical.not_not.1 fun hbar => ?_, hpiece⟩
      rw [cut_of_notMem hbar, List.mem_singleton] at hpiece
      exact hno (hpiece ▸ hrule)
    · rintro ⟨rule, hrule, -, hpiece⟩
      exact ⟨rule, hrule, hpiece⟩

end Agreement

/-- Behind the first bar of a specification a second one stays in the rule: the title is required by
the controller, and its form does not say so. -/
theorem not_agrees_of_bars :
    ¬∀ policy text l, FieldList.parse policy text = .ok l → ∀ field ∈ l.fields, field.Agrees := by
  intro hagrees
  have hparse : FieldList.parse .permissive "title:string|required|max:255" =
      .ok ⟨[⟨"title", .known .shortText, ["required|max:255"]⟩], by decide⟩ := by
    rfl
  have htitle := hagrees _ _ _ hparse _ List.mem_cons_self
  have hdemands := (htitle.demands_iff .create).2 (by decide)
  exact absurd (Markup.demands_iff_mem.1 hdemands) (by decide)

end CrudForge
