import CrudForge.Proofs.Field.SpelledList
import CrudForge.Proofs.Generation.Listed

/-!
# The lists of the model and the controller

The names of the fields in the model and the rules in the controller stand between commas. No name
and no rule that is read from a specification has a comma, so whatever else they hold, such as
quotes, arrows or line breaks, the lists are cut where they were put together.

## Main definitions

* `Field.ruleEntry` — the rules of a field, as the controller lists them.
* `FieldList.ruled` — the fields that have rules.
-/

namespace CrudForge

open Text

/-- The rules of a field behind its name, with bars between them. -/
def Field.ruleEntry (field : Field) : String :=
  "'" ++ field.name ++ "' => '" ++ join "|" field.rules ++ "'"

/-- The fields that have rules. -/
def FieldList.ruled (l : FieldList) : List Field :=
  l.fields.filter fun field => field.rules ≠ []

section Fields

variable {field : Field} {l : FieldList}

theorem Field.isWord_ruleEntry (field : Field) : IsWord field.ruleEntry := by
  have hquoted := isWord_quote (field.name ++ "' => '" ++ join "|" field.rules)
  simpa only [ruleEntry, String.append_assoc] using hquoted

theorem Field.IsWritable.comma_notMem_ruleEntry (h : field.IsWritable) :
    ',' ∉ field.ruleEntry.toList := by
  have hrules : ',' ∉ (join "|" field.rules).toList :=
    notMem_join (by decide) fun rule hrule => (h.rules rule hrule).noComma
  simp [Field.ruleEntry, h.noComma, hrules]

theorem FieldList.IsWritable.comma_notMem_names (h : l.IsWritable) :
    ∀ name ∈ l.names, ',' ∉ name.toList :=
  List.forall_mem_map.2 fun field hfield => (h field hfield).noComma

end Fields

namespace Generator

variable {g : Generator}

theorem validationRules_eq_join (g : Generator) :
    g.validationRules = join ("," ++ "\n            ") (g.fields.ruled.map Field.ruleEntry) := by
  have hfilter : (fun field : Field => !field.rules.isEmpty) =
      fun field => decide (field.rules ≠ []) := by
    funext field
    cases field.rules <;> rfl
  rw [validationRules, ruleEntries, hfilter]
  rfl

/-- The names between the commas of the model, each in quotes. -/
theorem cut_fillable (h : g.fields.IsWritable) :
    cut ',' g.fillable = padded " " (g.fields.names.map fun name => "'" ++ name ++ "'") := by
  have hpad : ',' ∉ " ".toList := by decide
  apply cut_join_comma hpad
  intro word hword
  obtain ⟨name, hname, rfl⟩ := List.mem_map.1 hword
  simpa using h.comma_notMem_names name hname

theorem comma_notMem_ruled (h : g.fields.IsWritable) :
    ∀ entry ∈ g.fields.ruled.map Field.ruleEntry, ',' ∉ entry.toList := by
  intro entry hentry
  obtain ⟨field, hfield, rfl⟩ := List.mem_map.1 hentry
  exact (h field (List.mem_of_mem_filter hfield)).comma_notMem_ruleEntry

/-- The entries between the commas of the controller, each on a line of its own. -/
theorem cut_validationRules (h : g.fields.IsWritable) :
    cut ',' g.validationRules =
      padded "\n            " (g.fields.ruled.map Field.ruleEntry) := by
  rw [validationRules_eq_join]
  exact cut_join_comma (by decide) (comma_notMem_ruled h)

theorem entries_validationRules (h : g.fields.IsWritable) :
    entries g.validationRules = g.fields.ruled.map Field.ruleEntry := by
  rw [validationRules_eq_join]
  apply entries_join (by decide) _ (comma_notMem_ruled h)
  intro entry hentry
  obtain ⟨field, -, rfl⟩ := List.mem_map.1 hentry
  exact field.isWord_ruleEntry

/-- The lists of what is read from a specification are read back: the model lists each name once, in
order, and the controller has one entry for each field with rules, in order. Models that list the
same have the same names. -/
theorem lists_read_back {policy : KindPolicy} {text : String}
    (h : FieldList.parse policy text = .ok g.fields) :
    cut ',' g.fillable = padded " " (g.fields.names.map fun name => "'" ++ name ++ "'") ∧
    listedNames g.fillable = g.fields.names.map some ∧
    (∀ (policy' : KindPolicy) (text' : String) (g' : Generator),
      FieldList.parse policy' text' = .ok g'.fields → g'.fillable = g.fillable →
        g'.fields.names = g.fields.names) ∧
    cut ',' g.validationRules =
      padded "\n            " (g.fields.ruled.map Field.ruleEntry) ∧
    entries g.validationRules = g.fields.ruled.map Field.ruleEntry := by
  have hwritable := FieldList.isWritable_of_parse h
  have hlisted := g.listedNames_fillable hwritable.comma_notMem_names
  refine ⟨cut_fillable hwritable, hlisted, ?_, cut_validationRules hwritable,
    entries_validationRules hwritable⟩
  intro policy' text' g' h' hsame
  have hlisted' := g'.listedNames_fillable (FieldList.isWritable_of_parse h').comma_notMem_names
  rw [hsame, hlisted] at hlisted'
  exact ((List.map_inj_right fun _ _ => Option.some.inj).1 hlisted').symm

end Generator

/-- Fields whose names and rules look like entries, and one without rules between them. -/
def entryLike : FieldList :=
  ⟨[⟨"a' => 'b", .known .date, ["in:'x'", "max:9"]⟩, ⟨"c\nd", .known .file, []⟩,
    ⟨"e", .custom "f:g", ["h|i"]⟩], by decide⟩

theorem Generator.lists_read_back_entryLike :
    FieldList.parse .permissive "a' => 'b:date|in:'x'& &max:9,c\nd:file,e : f:g|h|i" =
        .ok entryLike ∧
      entries (Generator.validationRules ⟨⟨"Post", by decide⟩, entryLike, .of ⟨"."⟩
          Settings.standard, .builtin⟩) =
        ["'a' => 'b' => 'in:'x'|max:9'", "'e' => 'h|i'"] := by
  have hparse : FieldList.parse .permissive
      "a' => 'b:date|in:'x'& &max:9,c\nd:file,e : f:g|h|i" = .ok entryLike := by
    rfl
  obtain ⟨-, -, -, -, hrules⟩ := @Generator.lists_read_back
    ⟨⟨"Post", by decide⟩, entryLike, .of ⟨"."⟩ Settings.standard, .builtin⟩ _ _ hparse
  exact ⟨hparse, hrules.trans (by decide)⟩

end CrudForge
