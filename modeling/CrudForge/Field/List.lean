import CrudForge.Field.Basic

/-!
# Lists of fields

The fields of one resource, in the order in which their names first appear. A name that appears
again keeps its place and takes the later definition.

## Main definitions

* `FieldList` — fields with pairwise different names.
* `FieldList.insert` — puts a field in the place of the one of its name, or at the end.
* `FieldList.parse` — reads fields between commas; a blank text has none.
-/

namespace CrudForge

/-- Puts `field` in the place of the field of its name, or at the end. -/
def insertField (field : Field) : List Field → List Field
  | [] => [field]
  | f :: fs => if f.name = field.name then field :: fs else f :: insertField field fs

theorem map_name_insertField (field : Field) (fs : List Field) :
    (insertField field fs).map (·.name) =
      if field.name ∈ fs.map (·.name) then fs.map (·.name)
      else fs.map (·.name) ++ [field.name] := by
  induction fs with
  | nil => simp [insertField]
  | cons f fs ih =>
    by_cases h : f.name = field.name
    · simp [insertField, h]
    · have h' : field.name ≠ f.name := fun e => h e.symm
      simp only [insertField, if_neg h, List.map_cons, ih, List.mem_cons, h', false_or]
      split <;> rfl

theorem nodup_insertField (field : Field) {fs : List Field} (h : (fs.map (·.name)).Nodup) :
    ((insertField field fs).map (·.name)).Nodup := by
  rw [map_name_insertField]
  split
  · exact h
  · rename_i hmem
    rw [List.nodup_append]
    refine ⟨h, by simp, ?_⟩
    intro a ha b hb
    simp only [List.mem_singleton] at hb
    rintro rfl
    exact hmem (hb ▸ ha)

theorem find?_insertField (field : Field) (fs : List Field) (name : String) :
    (insertField field fs).find? (·.name = name) =
      if name = field.name then some field else fs.find? (·.name = name) := by
  induction fs with
  | nil => by_cases h : field.name = name <;> simp [insertField, h, eq_comm]
  | cons f fs ih =>
    by_cases hf : f.name = field.name
    · by_cases h : name = field.name
      · simp [insertField, hf, h]
      · have h' : field.name ≠ name := fun e => h e.symm
        simp [insertField, hf, h, h']
    · by_cases h : f.name = name
      · have h' : name ≠ field.name := h ▸ hf
        simp [insertField, h, h']
      · simp [insertField, hf, h, ih]

/-- Fields with pairwise different names. -/
structure FieldList where
  fields : List Field
  distinct : (fields.map (·.name)).Nodup

namespace FieldList

def empty : FieldList := ⟨[], by simp⟩

def names (l : FieldList) : List String :=
  l.fields.map (·.name)

def size (l : FieldList) : Nat :=
  l.fields.length

def get? (l : FieldList) (name : String) : Option Field :=
  l.fields.find? (·.name = name)

def insert (l : FieldList) (field : Field) : FieldList :=
  ⟨insertField field l.fields, nodup_insertField field l.distinct⟩

@[simp] theorem names_insert (l : FieldList) (field : Field) :
    (l.insert field).names =
      if field.name ∈ l.names then l.names else l.names ++ [field.name] :=
  map_name_insertField field l.fields

@[simp] theorem get?_insert (l : FieldList) (field : Field) (name : String) :
    (l.insert field).get? name = if name = field.name then some field else l.get? name :=
  find?_insertField field l.fields name

/-- Reads the segments one after the other and inserts their fields; the first bad one decides. -/
def parseSegments (policy : KindPolicy) (l : FieldList) : List String → Except FieldError FieldList
  | [] => .ok l
  | segment :: rest =>
    match Field.parseUnder policy segment with
    | .error e => .error e
    | .ok field => parseSegments policy (l.insert field) rest

/-- Reads the fields between the commas of `text`. -/
def parse (policy : KindPolicy) (text : String) : Except FieldError FieldList :=
  if Text.isBlankText text then .ok empty
  else parseSegments policy empty (Text.cut ',' text)

/-- The text that is read back as the fields. -/
def render (l : FieldList) : String :=
  Text.join "," (l.fields.map Field.render)

end FieldList
end CrudForge
