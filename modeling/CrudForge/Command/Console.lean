import CrudForge.Settings.Environment
import CrudForge.Text.Case

/-!
# What commands say

## Main definitions

* `Glyphs` — the signs in front of lines, as pictures or plain.
* `Message` — a text for the output or for the errors.
* `Failure` — why a command failed, and `Failure.report` as it is told at the end.
-/

namespace CrudForge

structure Glyphs where
  check : String
  cross : String
  sparkle : String
  folder : String
  file : String
  custom : String

namespace Glyphs

def pictures : Glyphs where
  check := "✓ "
  cross := "✗ "
  sparkle := "✨ "
  folder := "📁 "
  file := "📄 "
  custom := "✨ "

def plain : Glyphs where
  check := "+ "
  cross := "x "
  sparkle := ""
  folder := ""
  file := ""
  custom := "* "

/-- Pictures if the language of the environment comes in UTF-8. -/
def ofEnvironment (env : Environment) : Glyphs :=
  match env.get? "LANG" with
  | some language => if (Text.upper language).endsWith "UTF-8" then pictures else plain
  | none => plain

end Glyphs

inductive Message
  | output (text : String)
  | error (text : String)

namespace Message

def outputText : Message → String
  | output text => text
  | error _ => ""

def errorText : Message → String
  | output _ => ""
  | error text => text

end Message

/-- What failed, and why: the nearest cause first. -/
structure Failure where
  message : String
  causes : List String

namespace Failure

/-- A text whose lines, but for the first, are indented. -/
def indentRest (indent text : String) : String :=
  Text.join ("\n" ++ indent) (Text.cut '\n' text)

def soleCause (cause : String) : String :=
  "    " ++ indentRest "    " cause

def numberedCause (cause : String) (index : Nat) : String :=
  let number := toString index
  let room := String.ofList (List.replicate (5 - number.length) ' ')
  room ++ number ++ ": " ++ indentRest "       " cause

/-- The causes, one on each line, with numbers if there are several. -/
def causeLines : List String → List String
  | [] => []
  | [cause] => [soleCause cause]
  | causes => causes.zipIdx.map fun (cause, index) => numberedCause cause index

def report (failure : Failure) : String :=
  let causes := causeLines failure.causes
  "Error: " ++ failure.message ++ "\n" ++
    if causes.isEmpty then "" else "\nCaused by:\n" ++ Text.join "\n" causes ++ "\n"

end Failure
end CrudForge
