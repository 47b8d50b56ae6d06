import CrudForge.Toml.Number
import CrudForge.Toml.Quoting
import CrudForge.Toml.Tree

/-!
# TOML documents

A document is a text of lines, each with a pair of key and value or with a header.

## Main definitions

* `Toml.key?` — a key, with dots or without.
* `Toml.value?` — a value; lists and tables nest to a limited depth.
* `Toml.parse?` — the table that a document writes.
-/

namespace CrudForge.Toml

open Settings (Value)

/-- The greatest depth of lists and tables in each other, and the greatest number of parts of a
key. -/
def greatestDepth : Nat := 79

/-- The characters of a key without quotes. -/
def isKeyChar (c : Char) : Bool :=
  c.isAlphanum || c = '-' || c = '_'

def keyPart? : Reader String := fun cs => do
  let (part, cs) ←
    match skipBlanks cs with
    | '"' :: cs => basicRest? cs
    | '\'' :: cs => literal? ('\'' :: cs)
    | cs => (Reader.run isKeyChar cs).map fun (part, rest) => (String.ofList part, rest)
  some (part, skipBlanks cs)

/-- A key: parts with dots between them. -/
def key? : Reader (List String) := fun cs => do
  let (parts, cs) ← Reader.separated keyPart? (Reader.exactly ".") cs
  if parts.length ≤ greatestDepth then some (parts, cs) else none

/-- A value that does not hold others. No setting is a date or a time, so these count as tables
without members. -/
def scalar? : Reader Value
  | 't' :: 'r' :: 'u' :: 'e' :: cs => some (.truth true, cs)
  | 'f' :: 'a' :: 'l' :: 's' :: 'e' :: cs => some (.truth false, cs)
  | cs =>
    match cs with
    | '"' :: _ => (quoted? cs).map fun (s, rest) => (.text s, rest)
    | '\'' :: _ => (quoted? cs).map fun (s, rest) => (.text s, rest)
    | _ =>
      match moment? cs, real? cs, integer? cs with
      | some (_, rest), _, _ => some (.table [], rest)
      | none, some (x, rest), _ => some (.real x, rest)
      | none, none, some (n, rest) => some (.signed n, rest)
      | none, none, none => none

/-- A list, behind its opening bracket. A comma may follow the last element. -/
def list? (element : Reader Value) : Reader Value := fun cs => do
  let spaced : Reader Value := fun cs => do
    let (v, cs) ← element (skipTrivia cs)
    some (v, skipTrivia cs)
  let (items, cs) :=
    match Reader.separated spaced (Reader.exactly ",") cs with
    | some (items, ',' :: cs) => (items, cs)
    | some result => result
    | none => ([], cs)
  let (_, cs) ← Reader.exactly "]" (skipTrivia cs)
  some (.list items, cs)

def pair? (value : Reader Value) : Reader (List String × Value) := fun cs => do
  let (keys, cs) ← key? cs
  let (_, cs) ← Reader.exactly "=" cs
  let (v, cs) ← value (skipBlanks cs)
  some ((keys, v), cs)

def ofPairs? (pairs : List (List String × Value)) : Option Value := do
  let members ← pairs.foldlM (fun members (keys, v) => Members.assign? keys v members) []
  some (Node.table .defined members).toValue

/-- A table on one line, behind its opening brace. -/
def inlineTable? (value : Reader Value) : Reader Value := fun cs => do
  let spaced : Reader (List String × Value) := fun cs => do
    let (pair, cs) ← pair? value cs
    some (pair, skipBlanks cs)
  let (pairs, cs) := (Reader.separated spaced (Reader.exactly ",") cs).getD ([], cs)
  let (_, cs) ← Reader.exactly "\x7d" (skipBlanks cs)
  let v ← ofPairs? pairs
  some (v, cs)

/-- A value in which lists and tables nest up to the depth. -/
def nested? : Nat → Reader Value
  | 0, cs => scalar? cs
  | depth + 1, cs =>
    match cs with
    | '[' :: rest => list? (nested? depth) rest
    | '\x7b' :: rest => inlineTable? (nested? depth) rest
    | cs => scalar? cs

def readValue? : Reader Value :=
  nested? greatestDepth

/-- A header, behind its opening brackets. -/
def header? (closing : String) : Reader (List String) := fun cs => do
  let (keys, cs) ← key? cs
  let (_, cs) ← Reader.exactly closing cs
  some (keys, cs)

/-- A statement without the end of its line. -/
def statement? : Reader Statement
  | '[' :: '[' :: cs => (header? "]]" cs).map fun (keys, rest) => (.listHeader keys, rest)
  | '[' :: cs => (header? "]" cs).map fun (keys, rest) => (.header keys, rest)
  | cs => (pair? readValue? cs).map fun ((keys, v), rest) => (.pair keys v, rest)

/-- A line that is not at the end of the text, with its statement if it has one. -/
def line? : Reader (Option Statement) := fun cs =>
  match skipBlanks cs with
  | [] => none
  | cs =>
    match statement? cs with
    | some (statement, rest) => (closeLine? rest).map fun rest => (some statement, rest)
    | none => (closeLine? cs).map fun rest => (none, rest)

def dropByteOrderMark : List Char → List Char
  | '\ufeff' :: cs => cs
  | cs => cs

/-- The table that a document writes, if it is a document. -/
def parse? (text : String) : Option Value :=
  match Reader.many line? (dropByteOrderMark text.toList) with
  | (lines, rest) => if (skipBlanks rest).isEmpty then value? (lines.filterMap id) else none

end CrudForge.Toml
