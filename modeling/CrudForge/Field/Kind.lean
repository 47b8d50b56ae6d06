/-!
# Kinds of fields

What a field holds: one of twelve known kinds, each with a keyword, or a custom kind that is kept as
it is written.

## Main definitions

* `Known` — the known kinds; `Known.keyword` writes one.
* `Kind` — a known or a custom kind; `Kind.ofKeyword` reads one and `Kind.keyword` writes it.
* `Kind.inputType` — the kind of form input that edits such a value.
-/

namespace CrudForge

/-- The kinds that have a keyword. -/
inductive Known
  | shortText
  | longText
  | integer
  | boolean
  | date
  | dateTime
  | time
  | email
  | password
  | choice
  | file
  | richText
  deriving DecidableEq

namespace Known

def all : List Known :=
  [shortText, longText, integer, boolean, date, dateTime, time, email, password, choice, file,
    richText]

def keyword : Known → String
  | shortText => "string"
  | longText => "text"
  | integer => "integer"
  | boolean => "boolean"
  | date => "date"
  | dateTime => "datetime"
  | time => "time"
  | email => "email"
  | password => "password"
  | choice => "enum"
  | file => "file"
  | richText => "wysiwyg"

/-- The kind of form input; for a one-line input this is its `type` attribute. -/
def inputType : Known → String
  | shortText => "text"
  | longText => "textarea"
  | integer => "number"
  | boolean => "checkbox"
  | date => "date"
  | dateTime => "datetime-local"
  | time => "time"
  | email => "email"
  | password => "password"
  | choice => "select"
  | file => "file"
  | richText => "wysiwyg"

theorem mem_all (k : Known) : k ∈ all := by
  cases k <;> decide

end Known

inductive Kind
  | known (kind : Known)
  | custom (text : String)
  deriving DecidableEq

namespace Kind

/-- Reads a keyword. Any other text, also a keyword in another case, is a custom kind. -/
def ofKeyword (text : String) : Kind :=
  match Known.all.find? (·.keyword = text) with
  | some kind => known kind
  | none => custom text

def keyword : Kind → String
  | known kind => kind.keyword
  | custom text => text

/-- The kind of form input; a custom kind names it itself. -/
def inputType : Kind → String
  | known kind => kind.inputType
  | custom text => text

def isKnown : Kind → Bool
  | known _ => true
  | custom _ => false

/-- A kind is written as it was read. -/
@[simp] theorem keyword_ofKeyword (text : String) : (ofKeyword text).keyword = text := by
  unfold ofKeyword
  split
  · rename_i kind h
    simpa [keyword] using List.find?_some h
  · rfl

/-- A known kind is read back from its keyword. -/
@[simp] theorem ofKeyword_keyword (kind : Known) : ofKeyword kind.keyword = known kind := by
  cases kind <;> decide

end Kind
end CrudForge
