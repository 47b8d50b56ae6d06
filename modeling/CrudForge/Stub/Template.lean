/-!
# Templates

A template is a text with slots, each a key between double braces. Filling puts values for the keys
that have one and copies everything else, also slots without a value and lone braces. A value is not
searched again.

## Main definitions

* `Values` — values for keys; the last one given to a key counts.
* `Template.scan` — the characters and slots of a text, given which keys have a value.
* `Template.fill` — the text with the values in place of the slots.
-/

namespace CrudForge

/-- Values for keys, the latest first. -/
structure Values where
  pairs : List (String × String)

namespace Values

def empty : Values := ⟨[]⟩

/-- Gives a value to a key, in place of an earlier one. -/
def set (values : Values) (key value : String) : Values :=
  ⟨(key, value) :: values.pairs⟩

def get? (values : Values) (key : String) : Option String :=
  values.pairs.lookup key

def has (values : Values) (key : String) : Bool :=
  (values.get? key).isSome

@[simp] theorem get?_empty (key : String) : empty.get? key = none := rfl

@[simp] theorem get?_set (values : Values) (key value k : String) :
    (values.set key value).get? k = if k = key then some value else values.get? k := by
  by_cases h : k = key
  · simp [get?, set, h]
  · simp [get?, set, List.lookup_cons, beq_eq_false_iff_ne.2 h, h]

end Values

namespace Template

/-- A piece of a template: a character that is copied, or a slot that is filled. -/
inductive Piece
  | char (c : Char)
  | slot (key : String)
  deriving DecidableEq

/-- A key goes on until a brace or a line feed. -/
def isKeyChar (c : Char) : Bool :=
  c ≠ '\x7b' && c ≠ '\x7d' && c ≠ '\n'

/-- The key of the slot that `cs` starts with, if it is closed and has a value. -/
def slotKey? (has : String → Bool) : List Char → Option String
  | '\x7b' :: '\x7b' :: rest =>
    let key := String.ofList (rest.takeWhile isKeyChar)
    match rest.dropWhile isKeyChar with
    | '\x7d' :: '\x7d' :: _ => if has key then some key else none
    | _ => none
  | _ => none

/-- The pieces of a text behind its first `skip` characters, which belong to a slot already read.
At each brace that starts no slot, the search goes on one character later. -/
def scanFrom (has : String → Bool) : Nat → List Char → List Piece
  | _, [] => []
  | skip + 1, _ :: cs => scanFrom has skip cs
  | 0, c :: cs =>
    match slotKey? has (c :: cs) with
    | some key => .slot key :: scanFrom has (key.length + 3) cs
    | none => .char c :: scanFrom has 0 cs

/-- The pieces of a text, where the keys that `has` accepts make slots. -/
def scan (has : String → Bool) (text : String) : List Piece :=
  scanFrom has 0 text.toList

def Piece.fill (values : Values) : Piece → List Char
  | char c => [c]
  | slot key => ((values.get? key).getD "").toList

/-- The text with every slot that has a value filled. -/
def fill (text : String) (values : Values) : String :=
  String.ofList ((scan values.has text).flatMap (Piece.fill values))

end Template
end CrudForge
