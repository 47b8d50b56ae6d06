/-!
# Blank characters

The characters with the Unicode property `White_Space`, and trimming by them.

## Main definitions

* `Text.isBlank` — the 25 blank characters.
* `Text.trim` — a text without the blanks at its two ends.
-/

namespace CrudForge.Text

/-- Blank are the tab, the line and page breaks, the space and the Unicode spaces; the zero-width
characters are not. -/
def isBlank (c : Char) : Bool :=
  let n := c.toNat
  (9 ≤ n && n ≤ 13) || n = 0x20 || n = 0x85 || n = 0xA0 || n = 0x1680 ||
    (0x2000 ≤ n && n ≤ 0x200A) || n = 0x2028 || n = 0x2029 || n = 0x202F || n = 0x205F || n = 0x3000

def trimRight (cs : List Char) : List Char :=
  (cs.reverse.dropWhile isBlank).reverse

def trimChars (cs : List Char) : List Char :=
  trimRight (cs.dropWhile isBlank)

def trim (s : String) : String :=
  String.ofList (trimChars s.toList)

def isBlankText (s : String) : Bool :=
  s.toList.all isBlank

@[simp] theorem toList_trim (s : String) : (trim s).toList = trimChars s.toList := by
  simp [trim]

end CrudForge.Text
