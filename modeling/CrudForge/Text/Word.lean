import CrudForge.Text.WordTable

/-!
# Word characters

The characters that may stand in a word: letters, marks, decimal digits, connector punctuation such
as the underscore, and the two joiners.
-/

namespace CrudForge.Text

def inRanges (ranges : List (Nat × Nat)) (n : Nat) : Bool :=
  ranges.any fun (first, last) => first ≤ n && n ≤ last

/-- In ASCII the word characters are the letters, the digits and the underscore. -/
def isWordChar (c : Char) : Bool :=
  c.isAlphanum || c = '_' || (127 < c.toNat && inRanges wordRanges c.toNat)

end CrudForge.Text
