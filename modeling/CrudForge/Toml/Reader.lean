/-!
# Reading text

A reader takes what it reads from the start of a text and gives the rest, or fails.

## Main definitions

* `Reader` — the type of readers.
* `Reader.many` — a reader again and again, as long as it succeeds and takes something.
* `Reader.separated` — one or more readings with something between each two.
* `Toml.skipBlanks`, `Toml.newline?`, `Toml.comment?`, `Toml.skipTrivia`, `Toml.lineEnd?` — what may
  stand between the parts of a document.
-/

namespace CrudForge

/-- Reads a value from the start of a text and gives the rest. -/
abbrev Reader (α : Type) := List Char → Option (α × List Char)

namespace Reader

variable {α β : Type}

def exactly (text : String) : Reader Unit := fun cs =>
  if text.toList.isPrefixOf cs then some ((), cs.drop text.length) else none

/-- The longest text of characters of a class, at least one. -/
def run (isMember : Char → Bool) : Reader (List Char) := fun cs =>
  let taken := cs.takeWhile isMember
  if taken.isEmpty then none else some (taken, cs.dropWhile isMember)

def orElse (first second : Reader α) : Reader α := fun cs =>
  match first cs with
  | some result => some result
  | none => second cs

/-- The readings of `p` one after the other, at most `fuel` of them, and the rest. -/
def manyUpTo (p : Reader α) : Nat → List Char → List α × List Char
  | 0, cs => ([], cs)
  | fuel + 1, cs =>
    match p cs with
    | none => ([], cs)
    | some (a, rest) =>
      let (as, rest') := manyUpTo p fuel rest
      (a :: as, rest')

/-- The readings of `p` one after the other, until it fails. A text has no more readings than
characters, because every `p` here takes at least one. -/
def many (p : Reader α) (cs : List Char) : List α × List Char :=
  manyUpTo p (cs.length + 1) cs

/-- One or more readings of `p`, with a reading of `between` between each two. -/
def separated (p : Reader α) (between : Reader β) : Reader (List α) := fun cs => do
  let (first, cs) ← p cs
  let next : Reader α := fun cs => do
    let (_, cs) ← between cs
    p cs
  let (others, cs) := many next cs
  some (first :: others, cs)

end Reader

namespace Toml

/-- Blanks within a line. -/
def isBlank (c : Char) : Bool :=
  c = ' ' || c = '\t'

/-- The characters that can stand anywhere within a line: all but control characters, where the tab
is none. -/
def isPlain (c : Char) : Bool :=
  c = '\t' || (0x20 ≤ c.toNat && c.toNat ≠ 0x7F)

def skipBlanks (cs : List Char) : List Char :=
  cs.dropWhile isBlank

/-- The end of a line: a line feed, or a carriage return and a line feed. -/
def newline? : List Char → Option (List Char)
  | '\n' :: rest => some rest
  | '\r' :: '\n' :: rest => some rest
  | _ => none

/-- A comment, from its sign to the last plain character. -/
def comment? : List Char → Option (List Char)
  | '#' :: rest => some (rest.dropWhile isPlain)
  | _ => none

def skipComment (cs : List Char) : List Char :=
  (comment? cs).getD cs

/-- The end of a line, or of the text. -/
def lineEnd? : List Char → Option (List Char)
  | [] => some []
  | cs => newline? cs

/-- What may follow on a line that is complete: blanks and a comment. -/
def closeLine? (cs : List Char) : Option (List Char) :=
  lineEnd? (skipComment (skipBlanks cs))

/-- Blanks and one line end, with a comment before it or not. -/
def emptyLine? : Reader Unit := fun cs =>
  (newline? (skipComment (skipBlanks cs))).map fun rest => ((), rest)

/-- Skips blanks, line ends, and comments with their line ends. -/
def skipTrivia (cs : List Char) : List Char :=
  skipBlanks (Reader.many emptyLine? cs).2

end Toml
end CrudForge
