import CrudForge.Decimal.Shortest
import CrudForge.Text.Quoted

/-!
# Values of settings

What a source of settings can hold, before it is known which setting it is for.

## Main definitions

* `Settings.Value` — a text, a truth value, a number, a list or a table.
* `Value.describe` — the value in words, as errors name it.
* `Value.overlay` — one value over another: tables are merged, all else is replaced.
-/

namespace CrudForge.Settings

/-- A value of some type. Numbers without a point come in two types; each source uses its own. -/
inductive Value
  | text (s : String)
  | truth (b : Bool)
  | signed (n : Int)
  | unsigned (n : Nat)
  | real (x : Real64)
  | list (items : List Value)
  | table (members : List (String × Value))

namespace Value

def isTable : Value → Bool
  | table _ => true
  | _ => false

def text? : Value → Option String
  | text s => some s
  | _ => none

def truth? : Value → Option Bool
  | truth b => some b
  | _ => none

/-- Whether the value can be a section: a table, or a list of what a table would hold. -/
def isSection : Value → Bool
  | table _ => true
  | list _ => true
  | _ => false

def member? (key : String) : Value → Option Value
  | table members => members.lookup key
  | _ => none

def inTicks (type number : String) : String :=
  type ++ " `" ++ number ++ "`"

def describe : Value → String
  | text s => "string " ++ Text.quoted s
  | truth b => "bool " ++ if b then "true" else "false"
  | signed n => inTicks "signed int" (toString n)
  | unsigned n => inTicks "unsigned int" (toString n)
  | real x => inTicks "float" x.toText
  | list _ => "sequence"
  | table _ => "map"

/-- Sets a member, in the place of the one of its key or at the end. -/
def setMember (key : String) (value : Value) : List (String × Value) → List (String × Value)
  | [] => [(key, value)]
  | (k, v) :: members =>
    if k = key then (key, value) :: members else (k, v) :: setMember key value members

mutual

/-- `high` over `low`: their members together if both are tables, else `high`. -/
def overlay : Value → Value → Value
  | table high, table low => table (overlayMembers high low)
  | high, _ => high

/-- The members of a table over those of another. -/
def overlayMembers : List (String × Value) → List (String × Value) → List (String × Value)
  | [], low => low
  | (key, value) :: high, low =>
    let merged :=
      match low.lookup key with
      | some old => overlay value old
      | none => value
    overlayMembers high (setMember key merged low)

end

/-- The value as a member of a member, and so on, with these keys. -/
def nest (keys : List String) (value : Value) : Value :=
  keys.foldr (fun key inner => table [(key, inner)]) value

end Value
end CrudForge.Settings
