import CrudForge.Toml.Reader

/-!
# Quoted texts in TOML

The four quoted forms: with escapes or literal, on one line or on several.

## Main definitions

* `Toml.escape?` — what follows a backslash.
* `Toml.literal?` — a text on one line, without escapes.
* `Toml.quoted?` — a text in any of the four forms.
-/

namespace CrudForge.Toml

def hexDigit? (c : Char) : Option Nat :=
  if c.isDigit then some (c.toNat - '0'.toNat)
  else if 'a' ≤ c && c ≤ 'f' then some (c.toNat - 'a'.toNat + 10)
  else if 'A' ≤ c && c ≤ 'F' then some (c.toNat - 'A'.toNat + 10)
  else none

def hexNumber? (cs : List Char) : Option Nat :=
  cs.foldlM (fun n c => (hexDigit? c).map (16 * n + ·)) 0

/-- The character with the number that the first `size` hexadecimal digits write. -/
def codePoint? (size : Nat) : Reader Char := fun cs => do
  let digits := cs.take size
  if digits.length < size then none
  else
    let n ← hexNumber? digits
    if n.isValidChar then some (Char.ofNat n, cs.drop size) else none

/-- What follows the backslash of an escape. -/
def escape? : Reader Char
  | 'b' :: cs => some ('\x08', cs)
  | 't' :: cs => some ('\t', cs)
  | 'n' :: cs => some ('\n', cs)
  | 'f' :: cs => some ('\x0c', cs)
  | 'r' :: cs => some ('\r', cs)
  | '"' :: cs => some ('"', cs)
  | '\\' :: cs => some ('\\', cs)
  | 'u' :: cs => codePoint? 4 cs
  | 'U' :: cs => codePoint? 8 cs
  | _ => none

/-- A character between double quotes, as it is or escaped. -/
def basicChar? : Reader Char
  | '\\' :: cs => escape? cs
  | '"' :: _ => none
  | c :: cs => if isPlain c then some (c, cs) else none
  | [] => none

/-- A text on one line, with escapes, behind its opening quote. -/
def basicRest? : Reader String := fun cs =>
  match Reader.many basicChar? cs with
  | (text, '"' :: rest) => some (String.ofList text, rest)
  | _ => none

/-- A character between single quotes. -/
def isLiteralChar (c : Char) : Bool :=
  isPlain c && c ≠ '\''

/-- A text on one line, without escapes. -/
def literal? : Reader String
  | '\'' :: cs =>
    match cs.dropWhile isLiteralChar with
    | '\'' :: rest => some (String.ofList (cs.takeWhile isLiteralChar), rest)
    | _ => none
  | _ => none

/-- Whether a line is broken off behind the backslash: only blanks follow on it. -/
def isLineBreak (cs : List Char) : Bool :=
  (newline? (skipBlanks cs)).isSome

/-- Skips blanks and line ends. -/
def skipSpace (cs : List Char) : List Char :=
  let blankLine : Reader Unit := fun cs => (newline? (skipBlanks cs)).map fun rest => ((), rest)
  skipBlanks (Reader.many blankLine cs).2

/-- One piece of a text on several lines with escapes: a character, a line end, or a backslash that
joins its line to the next text. -/
def blockPiece? : Reader (List Char)
  | '\\' :: cs =>
    if isLineBreak cs then some ([], skipSpace cs)
    else (escape? cs).map fun (c, rest) => ([c], rest)
  | '"' :: _ => none
  | cs =>
    match newline? cs, cs with
    | some rest, _ => some (['\n'], rest)
    | none, c :: rest => if isPlain c then some ([c], rest) else none
    | none, [] => none

/-- One piece of a literal text on several lines. -/
def literalPiece? : Reader (List Char)
  | '\'' :: _ => none
  | cs =>
    match newline? cs, cs with
    | some rest, _ => some (['\n'], rest)
    | none, c :: rest => if isPlain c then some ([c], rest) else none
    | none, [] => none

/-- One or two quotes that do not close the text. -/
def innerQuotes? (quote : Char) : Reader (List Char) := fun cs =>
  let quotes := cs.takeWhile (· = quote)
  if quotes.isEmpty || 3 ≤ quotes.length then none else some (quotes, cs.drop quotes.length)

/-- The closing quotes, with up to two more that belong to the text. -/
def closingQuotes? (quote : Char) : Reader (List Char) := fun cs =>
  let count := (cs.takeWhile (· = quote)).length
  if count < 3 then none
  else
    let inner := min (count - 3) 2
    some (List.replicate inner quote, cs.drop (inner + 3))

/-- A text on several lines, behind its three opening quotes. A line end at the very start does not
count. -/
def blockRest? (quote : Char) (piece : Reader (List Char)) : Reader String := fun cs => do
  let cs := (newline? cs).getD cs
  let (pieces, cs) := Reader.many (Reader.orElse piece (innerQuotes? quote)) cs
  let (last, cs) ← closingQuotes? quote cs
  some (String.ofList (pieces.flatten ++ last), cs)

def quoted? : Reader String
  | '"' :: '"' :: '"' :: cs => blockRest? '"' blockPiece? cs
  | '\'' :: '\'' :: '\'' :: cs => blockRest? '\'' literalPiece? cs
  | '"' :: cs => basicRest? cs
  | cs => literal? cs

end CrudForge.Toml
