import CrudForge.Proofs.Markup.Braceless
import CrudForge.Proofs.Naming.Plural
import CrudForge.Proofs.Stub.Publication

/-!
# Filling the built-in stubs

The built-in stubs have slots for words alone, and there is a value for each of them. Apart from the
slots they are inert, and so are the values if the fields have no opening braces. So the artifacts
have no slots for words left, while the echoes of the stubs are still there.

## Main definitions

* `ArtifactKind.keys` — the keys that have a value for a kind.
* `Generator.Completes` — an artifact is the built-in stub of its kind with every slot for a word
  filled.
-/

namespace CrudForge

open Template

/-! ## Stubs -/

namespace Stub

set_option maxRecDepth 8000 in
/-- In the built-in stubs no slot for a word starts by chance. -/
theorem inert_parts (kind : ArtifactKind) : ∀ part ∈ parts kind, part.Inert := by
  cases kind
  all_goals
    repeat' first
      | refine inert_cons_text (by decide) ?_
      | refine inert_cons_slot (by decide) ?_
    exact List.forall_mem_nil _

section Print

variable {template back : List Part} {i : Nat} {s t key : String} {cs ds : List Char}

/-- A template is printed up to a part, and from there on. -/
theorem print_take_drop (template : List Part) (i : Nat) :
    print template = print (template.take i) ++ print (template.drop i) := by
  unfold print
  rw [← Text.concat_append, ← List.map_append, List.take_append_drop]

/-- What stands in a text of a template is in the template. -/
theorem exists_print_of_text (h : template.drop i = .text (String.ofList cs) :: back)
    (hs : s.toList <:+: cs) : ∃ before after, print template = before ++ s ++ after := by
  obtain ⟨as, bs, rfl⟩ := hs
  refine ⟨print (template.take i) ++ String.ofList as, String.ofList bs ++ print back, ?_⟩
  rw [print_take_drop template i, h]
  simp [print, Text.concat, Part.print, ← String.toList_inj]

/-- What stands around a slot of a template is in the template. -/
theorem exists_print_of_slot
    (h : template.drop i =
      .text (String.ofList cs) :: .slot key :: .text (String.ofList ds) :: back)
    (hs : s.toList <:+ cs) (ht : t.toList <+: ds) :
    ∃ before after, print template = before ++ (s ++ slotText key ++ t) ++ after := by
  obtain ⟨as, rfl⟩ := hs
  obtain ⟨bs, rfl⟩ := ht
  refine ⟨print (template.take i) ++ String.ofList as, String.ofList bs ++ print back, ?_⟩
  rw [print_take_drop template i, h]
  simp [print, Text.concat, Part.print, slotText, slotChars, ← String.toList_inj]

/-- The expression for the list of all records. -/
def toList : List Part := ["route('", plural, ".index')"]

set_option maxRecDepth 8000 in
/-- The list has an echo of the last success. -/
theorem exists_builtin_listView :
    ∃ before after, builtin .listView = before ++ Markup.echo "session('success')" ++ after :=
  exists_print_of_text (i := 12) rfl (by decide)

set_option maxRecDepth 2000 in
/-- The forms have an echo that leads back to the list. -/
theorem exists_builtin_form {kind : ArtifactKind} (h : kind = .createView ∨ kind = .editView) :
    ∃ before after, builtin kind = before ++ Markup.echo (print toList) ++ after := by
  have hecho : Markup.echo (print toList) =
      "\x7b\x7b route('" ++ slotText "modelNamePluralLowerCase" ++ ".index') \x7d\x7d" := by
    decide
  rw [hecho]
  rcases h with rfl | rfl
  · exact exists_print_of_slot (i := 10) rfl (by decide) (by decide)
  · exact exists_print_of_slot (i := 10) rfl (by decide) (by decide)

end Print

/-- The key of a slot. -/
def Part.key? : Part → Option String
  | text _ => none
  | slot key => some key

end Stub

/-! ## Values -/

/-- The keys for the names of the resource. -/
def nameKeys : List String :=
  ["modelNameSingularLowerCase", "modelNamePluralLowerCase", "modelName"]

/-- The keys that have a value for a kind. -/
def ArtifactKind.keys : ArtifactKind → List String
  | model => "fillable" :: nameKeys
  | controller => "validationRules" :: nameKeys
  | listView => "rowFields" :: "fields" :: nameKeys
  | createView | editView => "fields" :: nameKeys

theorem isWordKey_of_mem_keys (kind : ArtifactKind) : ∀ key ∈ kind.keys, isWordKey key = true := by
  cases kind <;> decide

theorem mem_keys_of_slot (kind : ArtifactKind) :
    ∀ key ∈ (Stub.parts kind).filterMap Stub.Part.key?, key ∈ kind.keys := by
  cases kind <;> decide

theorem Values.has_set {values : Values} {key other value : String} :
    (values.set other value).has key = true ↔ key = other ∨ values.has key = true := by
  by_cases h : key = other <;> simp [has, h]

/-- Values in which no slot for a word starts. -/
def Values.Inert (values : Values) : Prop :=
  ∀ key value, values.get? key = some value → Template.Inert value

theorem Values.Inert.set {values : Values} (h : values.Inert) {key value : String}
    (hvalue : Template.Inert value) : (values.set key value).Inert := by
  intro other given hgiven
  rw [get?_set] at hgiven
  split at hgiven
  · exact Option.some.inj hgiven ▸ hvalue
  · exact h other given hgiven

namespace Generator

variable {g : Generator} {kind : ArtifactKind} {key value : String}

theorem has_values : (g.values kind).has key = true ↔ key ∈ kind.keys := by
  have hempty : Values.empty.has key = false := rfl
  cases kind <;>
    simp [values, nameValues, Values.has_set, hempty, ArtifactKind.keys, nameKeys]

theorem isWordKey_of_has (h : (g.values kind).has key = true) : isWordKey key = true :=
  isWordKey_of_mem_keys kind key (has_values.1 h)

theorem has_of_slot (h : .slot key ∈ Stub.parts kind) : (g.values kind).has key = true :=
  has_values.2 (mem_keys_of_slot kind key (List.mem_filterMap.2 ⟨_, h, rfl⟩))

/-- Names that are made of a resource name have no braces. -/
theorem inert_lowerName {name : String} (h : Naming.isLowerName name.toList = true) :
    Inert name :=
  inert_of_notMem fun hmem => absurd (Naming.isLowerChar_of_mem h _ hmem) (by decide)

theorem inert_resource (resource : ResourceName) : Inert resource.text := by
  refine inert_of_notMem fun hmem => ?_
  have hname := resource.isClassName
  unfold Naming.isClassName at hname
  split at hname
  · exact absurd hname (by decide)
  · rename_i c cs hchars
    rw [Bool.and_eq_true] at hname
    exact absurd (List.all_eq_true.1 hname.2 _ (hchars ▸ hmem)) (by decide)

theorem inert_nameValues (g : Generator) : g.nameValues.Inert := by
  have hempty : Values.empty.Inert := fun _ _ h => by simp at h
  exact ((hempty.set (inert_resource g.resource)).set
    (inert_lowerName (Naming.isLowerName_plural g.resource.isClassName))).set
    (inert_lowerName (Naming.isLowerName_singular g.resource.isClassName))

theorem inert_fillable (h : ∀ field ∈ g.fields.fields, field.IsBraceless) :
    Inert g.fillable := by
  refine inert_of_notMem (Text.notMem_join (by decide) ?_)
  refine List.forall_mem_map.2 (List.forall_mem_map.2 fun field hfield => ?_)
  simpa using (h field hfield).name

theorem inert_validationRules (h : ∀ field ∈ g.fields.fields, field.IsBraceless) :
    Inert g.validationRules := by
  refine inert_of_notMem (Text.notMem_join (by decide) ?_)
  refine List.forall_mem_map.2 fun field hmem => ?_
  have hfield := h field (List.mem_of_mem_filter hmem)
  simpa using ⟨hfield.name, hfield.ruleText⟩

theorem inert_values (h : ∀ field ∈ g.fields.fields, field.IsBraceless) (kind : ArtifactKind) :
    (g.values kind).Inert := by
  have hnames : g.nameValues.Inert := inert_nameValues g
  cases kind with
  | model => exact hnames.set (inert_fillable h)
  | controller => exact hnames.set (inert_validationRules h)
  | listView => exact (hnames.set (Markup.inert_fragment h .list)).set (Markup.inert_cells h)
  | createView => exact hnames.set (Markup.inert_fragment h .create)
  | editView => exact hnames.set (Markup.inert_fragment h .edit)

end Generator

/-! ## Echoes -/

section Echo

variable {values : Values}

/-- A text that ends in two opening braces is filled up to them. -/
theorem fill_append_open (text : String) (values : Values) :
    fill (text ++ "\x7b\x7b") values = fill text values ++ "\x7b\x7b" := by
  have hopen : fill "\x7b\x7b" values = "\x7b\x7b" := by
    simp [fill, scan, scanFrom, slotKey?, Piece.fill]
  rw [fill_append_of fun _ _ _ => slotKey?_append, hopen]

/-- A text that starts with two closing braces is filled behind them. -/
theorem fill_close_append (text : String) (values : Values) :
    fill ("\x7d\x7d" ++ text) values = "\x7d\x7d" ++ fill text values := by
  simp [fill, scan, scanFrom, slotKey?, Piece.fill, ← String.toList_inj]

/-- Filling goes into an echo, and keeps it. -/
theorem fill_echo (hwords : ∀ key, values.has key = true → isWordKey key = true)
    (before inner after : String) :
    fill (before ++ Markup.echo inner ++ after) values =
      fill before values ++ Markup.echo (fill inner values) ++ fill after values := by
  have hspace (a b : String) : fill (a ++ " " ++ b) values =
      fill a values ++ " " ++ fill b values :=
    fill_append_cons (fun key hhas _ => space_notMem_slotChars (hwords key hhas)) a b
  have hecho (before inner after : String) : before ++ Markup.echo inner ++ after =
      before ++ "\x7b\x7b" ++ " " ++ (inner ++ " " ++ ("\x7d\x7d" ++ after)) := by
    simp [Markup.echo, ← String.toList_inj]
  rw [hecho, hspace, hspace, fill_append_open, fill_close_append, hecho]

end Echo

namespace Generator

variable {g : Generator} {kind : ArtifactKind}

theorem value_plural (g : Generator) (kind : ArtifactKind) :
    (g.values kind).value "modelNamePluralLowerCase" = Naming.plural g.resource.text := by
  cases kind <;> simp [values, nameValues, Values.value]

/-- The artifact is the built-in stub of its kind with a value for every slot for a word and all
else as it was. No such slot is left, and every echo of the stub is still one, with its inner part
filled. -/
structure Completes (g : Generator) (a : Artifact) : Prop where
  replaced : ∃ pieces, Decomposes isWordKey (Stub.builtin a.kind) pieces ∧
    (∀ key, .slot key ∈ pieces →
      (g.values a.kind).get? key = some ((g.values a.kind).value key)) ∧
    a.content = spell (g.values a.kind).value pieces
  finished : ∀ key before after, isWordKey key = true →
    a.content ≠ before ++ slotText key ++ after
  echoes : ∀ before inner after,
    Stub.builtin a.kind = before ++ Markup.echo inner ++ after →
      a.content = fill before (g.values a.kind) ++
        Markup.echo (fill inner (g.values a.kind)) ++ fill after (g.values a.kind)
  success : a.kind = .listView → ∃ before after,
    a.content = before ++ Markup.echo "session('success')" ++ after
  back : a.kind = .createView ∨ a.kind = .editView → ∃ before after, a.content = before ++
    Markup.echo ("route('" ++ Naming.plural g.resource.text ++ ".index')") ++ after

theorem inert_fill_builtin (h : ∀ field ∈ g.fields.fields, field.IsBraceless)
    (kind : ArtifactKind) : Template.Inert (fill (Stub.builtin kind) (g.values kind)) := by
  have hprint : fill (Stub.builtin kind) (g.values kind) =
      Text.concat ((Stub.parts kind).map (Stub.Part.filled (g.values kind).value)) :=
    Stub.fill_print (Stub.inert_parts kind) (fun _ => isWordKey_of_has) fun _ => has_of_slot
  rw [hprint]
  refine inert_concat (List.forall_mem_map.2 fun part hpart => ?_)
  cases part with
  | text s => exact Stub.inert_parts kind _ hpart
  | slot key =>
    have hvalue := (g.values kind).get?_eq_value key
    rw [if_pos (has_of_slot hpart)] at hvalue
    exact inert_values h kind key _ hvalue

theorem fill_toList (g : Generator) (kind : ArtifactKind) :
    fill (Stub.print Stub.toList) (g.values kind) =
      "route('" ++ Naming.plural g.resource.text ++ ".index')" := by
  have hinert : ∀ part ∈ Stub.toList, part.Inert :=
    Stub.inert_cons_text rfl (Stub.inert_cons_slot (by decide) (Stub.inert_cons_text rfl nofun))
  have hslots (key : String) (hkey : .slot key ∈ Stub.toList) :
      (g.values kind).has key = true := by
    have hplural : key = "modelNamePluralLowerCase" := by
      simpa [Stub.toList, Stub.plural] using hkey
    rw [hplural, has_values]
    cases kind <;> decide
  rw [Stub.fill_print hinert (fun _ => isWordKey_of_has) hslots]
  simp [Stub.toList, Stub.plural, Text.concat, Stub.Part.filled, value_plural, ← String.toList_inj]

/-- The artifact of a kind is its built-in stub, filled. -/
theorem completes_fill_builtin (h : ∀ field ∈ g.fields.fields, field.IsBraceless)
    (kind : ArtifactKind) :
    g.Completes ⟨kind, g.path kind, fill (Stub.builtin kind) (g.values kind)⟩ := by
  have hwords (key : String) (hkey : (g.values kind).has key = true) : isWordKey key = true :=
    isWordKey_of_has hkey
  have hslots (key : String) (hkey : .slot key ∈ scan isWordKey (Stub.builtin kind)) :
      (g.values kind).has key = true := by
    rw [Stub.builtin, Stub.scan_print (Stub.inert_parts kind)] at hkey
    exact has_of_slot (Stub.slot_mem_pieces.1 hkey)
  have hechoes (before inner after : String)
      (hstub : Stub.builtin kind = before ++ Markup.echo inner ++ after) :
      fill (Stub.builtin kind) (g.values kind) = fill before (g.values kind) ++
        Markup.echo (fill inner (g.values kind)) ++ fill after (g.values kind) := by
    rw [hstub, fill_echo hwords]
  refine ⟨⟨_, decomposes_scan isWordKey _, fun key hkey => ?_, ?_⟩, ?_, hechoes, ?_, ?_⟩
  · have hvalue := (g.values kind).get?_eq_value key
    rwa [if_pos (hslots key hkey)] at hvalue
  · exact fill_eq_spell_of_words hwords hslots
  · exact fun key before after hkey => (inert_fill_builtin h kind).ne_slot hkey before after
  · rintro rfl
    obtain ⟨before, after, hstub⟩ := Stub.exists_builtin_listView
    have hinner : Template.Inert "session('success')" := inert_ofList rfl
    have hecho := hechoes _ _ _ hstub
    rw [hinner.fill_eq hwords] at hecho
    exact ⟨_, _, hecho⟩
  · intro hform
    obtain ⟨before, after, hstub⟩ := Stub.exists_builtin_form hform
    have hecho := hechoes _ _ _ hstub
    rw [fill_toList] at hecho
    exact ⟨_, _, hecho⟩

/-- Whatever the names, kinds and rules are, as long as they have no opening braces, the values do
not form slots with one another or with the stubs. -/
theorem completes_render (h : ∀ field ∈ g.fields.fields, field.IsBraceless) :
    ∃ artifacts, (∀ fs, (g.over .builtin).render fs = .ok artifacts) ∧
      artifacts.map (·.kind) = ArtifactKind.all ∧ ∀ a ∈ artifacts, g.Completes a := by
  refine ⟨_, render_over_builtin g, by simp [Function.comp_def], fun a ha => ?_⟩
  obtain ⟨kind, -, rfl⟩ := List.mem_map.1 ha
  exact completes_fill_builtin h kind

end Generator

/-- A resource with a name that looks like a slot, but for the opening braces. -/
def articles : Generator where
  resource := ⟨"Article", by decide⟩
  fields := ⟨[⟨"title\x7d\x7d", .known .shortText, ["required", "max:255"]⟩,
    ⟨"état_civil", .known .choice, []⟩, ⟨"body", .known .richText, ["required"]⟩,
    ⟨"tint", .custom "color", []⟩], by decide⟩
  layout := .of ⟨""⟩ .standard
  stubs := .builtin

theorem completes_render_articles :
    (∀ field ∈ articles.fields.fields, field.IsBraceless) ∧
      ∃ artifacts, articles.render .empty = .ok artifacts ∧
        ∀ a ∈ artifacts, articles.Completes a := by
  have hbraceless : ∀ field ∈ articles.fields.fields, field.IsBraceless := by decide
  obtain ⟨artifacts, hrender, -, hall⟩ := Generator.completes_render hbraceless
  exact ⟨hbraceless, artifacts, hrender .empty, hall⟩

end CrudForge
