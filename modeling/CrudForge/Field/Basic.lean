import CrudForge.Field.Kind
import CrudForge.Text.Blank
import CrudForge.Text.Split

/-!
# Fields

A field of a resource: a name, a kind, and the rules that its values have to meet. A field is
written `name:kind` or `name:kind|rule&rule`.

## Main definitions

* `Field` — a field; `Field.render` writes it.
* `Field.parse` — reads one, with white space around every part and blank rules dropped.
* `FieldError` — the ways in which that fails, worded by `FieldError.message`.
-/

namespace CrudForge

inductive FieldFault
  | noSeparator
  | emptyName
  | emptyKind
  deriving DecidableEq

def FieldFault.message : FieldFault → String
  | noSeparator => "missing ':' type separator"
  | emptyName => "field name is empty"
  | emptyKind => "field type is empty"

inductive FieldError
  | malformed (segment : String) (fault : FieldFault)
  | unknownKind (field : String) (kind : String)
  deriving DecidableEq

def FieldError.message : FieldError → String
  | malformed segment fault =>
    "malformed field specification '" ++ segment ++ "': " ++ fault.message
  | unknownKind field kind => "unknown field type '" ++ kind ++ "' for field '" ++ field ++ "'"

/-- Whether custom kinds are allowed. -/
inductive KindPolicy
  | permissive
  | strict
  deriving DecidableEq

structure Field where
  name : String
  kind : Kind
  rules : List String
  deriving DecidableEq

namespace Field

def isRequired (field : Field) : Bool :=
  field.rules.any (· = "required")

/-- The rules as one text, a bar between each two. -/
def ruleText (field : Field) : String :=
  Text.join "|" field.rules

/-- The field as it is written in a specification. -/
def render (field : Field) : String :=
  let head := field.name ++ ":" ++ field.kind.keyword
  if field.rules.isEmpty then head else head ++ "|" ++ Text.join "&" field.rules

/-- The rules between the ampersands, without the blank ones. -/
def parseRules (text : String) : List String :=
  ((Text.cut '&' text).map Text.trim).filter (· ≠ "")

/-- Cuts what follows the name into the kind and the rules behind the first bar. -/
def cutKind (text : String) : String × List String :=
  match Text.cutFirst? '|' text with
  | some (kind, rules) => (kind, parseRules rules)
  | none => (text, [])

/-- Reads a field. The name ends at the first colon, so kinds and rules may hold colons. -/
def parse (text : String) : Except FieldError Field :=
  let segment := Text.trim text
  match Text.cutFirst? ':' segment with
  | none => .error (.malformed segment .noSeparator)
  | some (nameText, rest) =>
    let name := Text.trim nameText
    if name = "" then .error (.malformed segment .emptyName)
    else
      let (kindText, rules) := cutKind rest
      let kind := Text.trim kindText
      if kind = "" then .error (.malformed segment .emptyKind)
      else .ok { name, kind := .ofKeyword kind, rules }

/-- Reads a field whose kind has to meet the policy. -/
def parseUnder (policy : KindPolicy) (text : String) : Except FieldError Field :=
  match parse text with
  | .error e => .error e
  | .ok field =>
    if policy = .strict && !field.kind.isKnown then
      .error (.unknownKind field.name field.kind.keyword)
    else
      .ok field

end Field
end CrudForge
