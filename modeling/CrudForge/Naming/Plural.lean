import CrudForge.Text.Word

/-!
# Plurals

The plural of a lower-case word: fixed words first, then the first of a list of rules on the end of
the word, else an `s`.

A rule keeps the word characters before the end that it matches. What stands before those, such as
the words before a blank, is lost.

## Main definitions

* `Naming.PluralRule` — a rule; `PluralRule.image?` tries it.
* `Naming.pluralOf` — the plural of a word.
-/

namespace CrudForge.Naming

/-- The words that are their own plural. -/
def uncountable : List String := [
  "accommodation", "adulthood", "advertising", "advice", "aggression", "aid", "air", "aircraft",
  "alcohol", "anger", "applause", "arithmetic", "assistance", "athletics", "bacon", "baggage",
  "beef", "biology", "blood", "botany", "bread", "butter", "carbon", "cardboard", "cash", "chalk",
  "chaos", "chess", "crossroads", "countryside", "dancing", "deer", "dignity", "dirt", "dust",
  "economics", "education", "electricity", "engineering", "enjoyment", "envy", "equipment",
  "ethics", "evidence", "evolution", "fame", "fiction", "flour", "flu", "food", "fuel", "fun",
  "furniture", "gallows", "garbage", "garlic", "genetics", "gold", "golf", "gossip", "grammar",
  "gratitude", "grief", "guilt", "gymnastics", "happiness", "hardware", "harm", "hate", "hatred",
  "health", "heat", "help", "homework", "honesty", "honey", "hospitality", "housework", "humour",
  "hunger", "hydrogen", "ice", "importance", "inflation", "information", "innocence", "iron",
  "irony", "jam", "jewelry", "judo", "karate", "knowledge", "lack", "laughter", "lava", "leather",
  "leisure", "lightning", "linguine", "linguini", "linguistics", "literature", "litter",
  "livestock", "logic", "loneliness", "luck", "luggage", "macaroni", "machinery", "magic",
  "management", "mankind", "marble", "mathematics", "mayonnaise", "measles", "methane", "milk",
  "money", "mud", "music", "mumps", "nature", "news", "nitrogen", "nonsense", "nurture",
  "nutrition", "obedience", "obesity", "oxygen", "pasta", "patience", "physics", "poetry",
  "pollution", "poverty", "pride", "psychology", "publicity", "punctuation", "quartz", "racism",
  "relaxation", "reliability", "research", "respect", "revenge", "rice", "rubbish", "rum", "safety",
  "scenery", "seafood", "seaside", "series", "shame", "sheep", "shopping", "sleep", "smoke",
  "smoking", "snow", "soap", "software", "soil", "spaghetti", "species", "steam", "stuff",
  "stupidity", "sunshine", "symmetry", "tennis", "thirst", "thunder", "timber", "traffic",
  "transportation", "trust", "underwear", "unemployment", "unity", "validity", "veal", "vegetation",
  "vegetarianism", "vengeance", "violence", "vitality", "warmth", "wealth", "weather", "welfare",
  "wheat", "wildlife", "wisdom", "yoga", "zinc", "zoology"]

def irregular : List (String × String) := [
  ("ox", "oxen"), ("man", "men"), ("woman", "women"), ("die", "dice"), ("yes", "yeses"),
  ("foot", "feet"), ("eave", "eaves"), ("goose", "geese"), ("tooth", "teeth"), ("quiz", "quizzes")]

/-- What one character of a stem may be. -/
inductive Letter
  | exactly (c : Char)
  | among (cs : List Char)
  | except (cs : List Char)

def Letter.allows : Letter → Char → Bool
  | exactly d, c => c = d
  | among cs, c => cs.contains c
  | except cs, c => !cs.contains c

/-- Words that end in one of the stems and then one of the endings take `suffix` in place of the
ending. -/
structure PluralRule where
  stems : List (List Letter)
  endings : List String
  suffix : String

/-- The stem of exactly these letters. -/
def letters (s : String) : List Letter :=
  s.toList.map .exactly

def words (stems : List String) : List (List Letter) :=
  stems.map letters

def oneOf (s : String) : Letter :=
  .among s.toList

/-- None of these letters, but some other character. -/
def noneOf (s : String) : Letter :=
  .except s.toList

/-- The rules, in the order in which they are tried. -/
def pluralRules : List PluralRule := [
  ⟨words ["eaux"], [""], ""⟩,
  ⟨words ["child"], ["ren", ""], "ren"⟩,
  ⟨words ["person", "people"], [""], "ople"⟩,
  ⟨words ["mice", "mouse", "lice", "louse"], [""], "ice"⟩,
  ⟨words ["matr", "cod", "mur", "sil", "vert", "ind", "append"], ["ix", "ex"], "ices"⟩,
  ⟨words ["x", "ch", "ss", "sh", "zz"], [""], "es"⟩,
  ⟨words ["xes", "ches", "sses", "shes", "zzes"], [""], ""⟩,
  ⟨[[noneOf "ch", oneOf "ieo", oneOf "ln"]], ["ey"], "ies"⟩,
  ⟨[[noneOf "aeiouy"], letters "qu"], ["y"], "ies"⟩,
  ⟨words ["ar", "l", "ea", "eo", "oa", "hoo"], ["f"], "ves"⟩,
  ⟨words ["kni", "wi", "li"], ["fe"], "ves"⟩,
  ⟨[[]], ["sis"], "ses"⟩,
  ⟨words ["apheli", "hyperbat", "periheli", "asyndet", "noumen", "phenomen", "criteri", "organ",
    "prolegomen", "hedr", "automat"], ["a", "on"], "a"⟩,
  ⟨words ["agend", "addend", "millenni", "dat", "extrem", "bacteri", "desiderat", "strat",
    "candelabr", "errat", "ov", "symposi", "curricul", "automat", "quor"], ["a", "um"], "a"⟩,
  ⟨words ["her", "at", "gr"], ["o"], "oes"⟩,
  ⟨words ["seraph", "cherub"], ["im", ""], "im"⟩,
  ⟨words ["alumn", "alg", "vertebr"], ["a", "ae"], "ae"⟩,
  ⟨words ["alumn", "syllab", "octop", "vir", "radi", "nucle", "fung", "cact", "stimul", "termin",
    "bacill", "foc", "uter", "loc", "strat"], ["us", "i"], "i"⟩,
  ⟨[noneOf "l" :: letters "ias", oneOf "aeiou" :: letters "las", oneOf "emjzr" :: letters "as",
    oneOf "iu" :: letters "am"], [""], ""⟩,
  ⟨words ["emu", "enu"], ["s", ""], "s"⟩,
  ⟨(noneOf "aou" :: letters "us") :: words ["alias", "tlas", "gas", "ris"], [""], "es"⟩,
  ⟨words ["ax", "test"], ["is"], "es"⟩,
  ⟨[noneOf "aeiou" :: letters "ese"], [""], ""⟩,
  ⟨[[]], ["s"], "s"⟩]

/-- Cuts the end that matches `stem` off a reversed text. Both halves stay reversed. -/
def takeStem? : List Letter → List Char → Option (List Char × List Char)
  | [], rest => some ([], rest)
  | _ :: _, [] => none
  | letter :: stem, c :: rest =>
    if letter.allows c then (takeStem? stem rest).map fun (taken, left) => (c :: taken, left)
    else none

namespace PluralRule

/-- The plural by one stem and one ending: the word characters that lead up to the stem, the stem,
and the suffix. -/
def applyWith? (rule : PluralRule) (stem : List Letter) (ending : String) (word : List Char) :
    Option (List Char) :=
  match ending.toList.reverse.isPrefixOf? word.reverse with
  | none => none
  | some rest =>
    (takeStem? stem.reverse rest).map fun (taken, left) =>
      (left.takeWhile Text.isWordChar).reverse ++ taken.reverse ++ rule.suffix.toList

def image? (rule : PluralRule) (word : List Char) : Option (List Char) :=
  rule.stems.findSome? fun stem =>
    rule.endings.findSome? fun ending => rule.applyWith? stem ending word

end PluralRule

def pluralOf (word : String) : String :=
  if uncountable.contains word then word
  else
    match irregular.lookup word with
    | some plural => plural
    | none =>
      match pluralRules.findSome? (·.image? word.toList) with
      | some plural => String.ofList plural
      | none => word ++ "s"

end CrudForge.Naming
