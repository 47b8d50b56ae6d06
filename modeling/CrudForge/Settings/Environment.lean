import CrudForge.Settings.Value
import CrudForge.Text.Blank
import CrudForge.Text.Split
import CrudForge.Toml.Quoting

/-!
# Settings in environment variables

A variable whose name starts with `CRUDGEN_` sets the value at the place that the rest of the name
tells, two underscores between each two keys. Its text is read as a value where it is one in full,
and stands for itself else.

## Main definitions

* `Environment` — variables with their values.
* `Environment.place?` — the place that a variable sets.
* `Environment.value` — the value that a text stands for.
* `Environment.settings` — the table of all values that are set.
-/

namespace CrudForge

/-- The environment variables, in the order in which they count. -/
structure Environment where
  pairs : List (String × String)

namespace Environment

open Settings (Value)

def get? (env : Environment) (name : String) : Option String :=
  env.pairs.lookup name

/-- The start of the names that count, in any case. -/
def namePrefix : List Char :=
  "crudgen_".toList

/-- Writes a dot for every two underscores, from the left. -/
def dotted : List Char → List Char
  | '_' :: '_' :: cs => '.' :: dotted cs
  | c :: cs => c :: dotted cs
  | [] => []

/-- The keys that lead to the place a variable sets, if it sets one. -/
def place? (name : String) : Option (List String) :=
  let cs := (Text.trimChars name.toList).map Char.toLower
  if namePrefix.isPrefixOf cs then
    let keys := Text.cut '.' (String.ofList (dotted (cs.drop namePrefix.length)))
    if keys.any (· = "") then none else some keys
  else
    none

/-- White space between the parts of a value. -/
def isSpace (c : Char) : Bool :=
  c = ' ' || c = '\t' || c = '\n' || c = '\r' || c = '\x0c'

def skipSpace (cs : List Char) : List Char :=
  cs.dropWhile isSpace

/-- The characters that end a word. -/
def isPunctuation (c : Char) : Bool :=
  c = ',' || c = '\x7b' || c = '\x7d' || c = '[' || c = ']'

/-- The number without sign that a word writes. -/
def unsigned? (word : List Char) : Option Nat :=
  let digits := match word with
    | '+' :: digits => digits
    | digits => digits
  if digits.isEmpty || !digits.all Char.isDigit then none
  else
    let n := Real64.ofDigits digits
    if n < Nat.pow 2 64 then some n else none

/-- The negative number, or zero, that a word with a minus sign writes. -/
def negative? : List Char → Option Int
  | '-' :: digits =>
    if digits.isEmpty || !digits.all Char.isDigit then none
    else
      let n := Real64.ofDigits digits
      if n ≤ Nat.pow 2 63 then some (-n) else none
  | _ => none

def real? (word : List Char) : Option Real64 :=
  if word.contains '.' then Real64.parse? word else none

/-- What a word stands for: a number, or itself. -/
def ofWord (word : List Char) : Value :=
  match real? word, unsigned? word, negative? word with
  | some x, _, _ => .real x
  | none, some n, _ => .unsigned n
  | none, none, some n => .signed n
  | none, none, none => .text (String.ofList word)

/-- A text without separators around it. -/
def scalar? : Reader Value
  | 't' :: 'r' :: 'u' :: 'e' :: cs => some (.truth true, cs)
  | 'f' :: 'a' :: 'l' :: 's' :: 'e' :: cs => some (.truth false, cs)
  | '"' :: cs => (Toml.basicRest? cs).map fun (s, rest) => (.text s, rest)
  | '\'' :: c :: '\'' :: cs => some (.text (String.singleton c), cs)
  | '\'' :: _ => none
  | cs =>
    let word := Text.trimChars (cs.takeWhile (!isPunctuation ·))
    some (ofWord word, cs.dropWhile (!isPunctuation ·))

/-- Items with commas between them, up to the closing character. At most `fuel` of them. -/
def items? {α : Type} (item : Reader α) (closing : Char) : Nat → Reader (List α)
  | 0, _ => none
  | fuel + 1, cs =>
    match cs with
    | [] => none
    | c :: rest =>
      if c = closing then some ([], rest)
      else do
        let (first, cs) ← item (c :: rest)
        match cs with
        | ',' :: cs => do
          let (others, cs) ← items? item closing fuel cs
          some (first :: others, cs)
        | c :: cs => if c = closing then some ([first], cs) else none
        | [] => none

def key? : Reader String
  | '"' :: cs => Toml.basicRest? cs
  | cs =>
    (Reader.run (fun c => c.isAlphanum || c = '_' || c = '-') cs).map fun (key, rest) =>
      (String.ofList key, rest)

def pair? (value : Reader Value) : Reader (String × Value) := fun cs => do
  let (key, cs) ← key? (skipSpace cs)
  let (_, cs) ← Reader.exactly "=" (skipSpace cs)
  let (v, cs) ← value (skipSpace cs)
  some ((key, v), skipSpace cs)

/-- The table of the pairs; of two with one key the later counts. -/
def tableOf (pairs : List (String × Value)) : Value :=
  .table (pairs.foldl (fun members (key, v) => Value.setMember key v members) [])

/-- A value in which lists and tables nest at most `fuel` deep, with the white space around it. -/
def value? : Nat → Reader Value
  | 0, _ => none
  | fuel + 1, cs => do
    let (v, cs) ←
      match skipSpace cs with
      | '[' :: rest =>
        (items? (value? fuel) ']' (rest.length + 1) rest).map fun (items, cs) =>
          (Value.list items, cs)
      | '\x7b' :: rest =>
        (items? (pair? (value? fuel)) '\x7d' (rest.length + 1) rest).map fun (pairs, cs) =>
          (tableOf pairs, cs)
      | cs => scalar? cs
    some (v, skipSpace cs)

def value (text : String) : Value :=
  match value? (text.length + 1) text.toList with
  | some (v, []) => v
  | _ => .text text

/-- The table of all values that are set; of two at one place the later counts. -/
def settings (env : Environment) : Value :=
  env.pairs.foldl
    (fun table (name, text) =>
      match place? name with
      | none => table
      | some keys => (Value.nest keys (value text)).overlay table)
    (.table [])

end Environment
end CrudForge
