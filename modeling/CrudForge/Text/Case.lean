import CrudForge.Text.CaseTable
import CrudForge.Text.Word

/-!
# Letter case

The full Unicode case mappings, in which one character may become several.

## Main definitions

* `Text.upperOf`, `Text.lowerOf` — the mappings of one character.
* `Text.lower` — a text in lower case; a sigma at the end of a word takes its final form.
* `Text.upper` — a text in upper case.
-/

namespace CrudForge.Text

/-- Several characters if `n` is in `expansions`, one by the first row that has `n`, else `n`. -/
def mapCase (expansions : List (Nat × List Nat)) (rows : List CaseRow) (n : Nat) : List Char :=
  match expansions.lookup n with
  | some ns => ns.map Char.ofNat
  | none => [Char.ofNat ((rows.findSome? (·.image? n)).getD n)]

def upperOf (c : Char) : List Char :=
  if c.toNat ≤ 127 then [c.toUpper] else mapCase upperExpansions upperRows c.toNat

/-- The lower case of one character, wherever it stands. -/
def lowerOf (c : Char) : List Char :=
  if c.toNat ≤ 127 then [c.toLower] else mapCase lowerExpansions lowerRows c.toNat

/-- Whether a character with case comes first in `cs`, but for characters that are ignored. -/
def facesLetter (cs : List Char) : Bool :=
  match cs.dropWhile (inRanges caseIgnorableRanges ·.toNat) with
  | [] => false
  | c :: _ => inRanges casedRanges c.toNat

/-- The lower case of a text that stands behind the reversed text `before`. A capital sigma is
final if a letter precedes it and none follows. -/
def lowerChars (before : List Char) : List Char → List Char
  | [] => []
  | c :: cs =>
    let mapped :=
      if c = 'Σ' then [if facesLetter before && !facesLetter cs then 'ς' else 'σ'] else lowerOf c
    mapped ++ lowerChars (c :: before) cs

def lower (s : String) : String :=
  String.ofList (lowerChars [] s.toList)

def upper (s : String) : String :=
  String.ofList (s.toList.flatMap upperOf)

end CrudForge.Text
