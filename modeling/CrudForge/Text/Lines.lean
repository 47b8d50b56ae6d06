/-!
# Lines

A line ends behind a line feed, a carriage return, or the two together, and holds its own end.

## Main definitions

* `Text.lines` — the lines of a text, ends included.
* `Text.countLines` — the number of line feeds, and one more if text follows the last.
-/

namespace CrudForge.Text

def consLine (c : Char) : List (List Char) → List (List Char)
  | [] => [[c]]
  | line :: rest => (c :: line) :: rest

/-- Cuts behind every line feed, and behind every carriage return without a line feed. -/
def linesChars : List Char → List (List Char)
  | [] => []
  | '\n' :: cs => ['\n'] :: linesChars cs
  | '\r' :: cs =>
    match cs with
    | '\n' :: _ => consLine '\r' (linesChars cs)
    | _ => ['\r'] :: linesChars cs
  | c :: cs => consLine c (linesChars cs)

/-- The lines of `s`, each with its end; the last may have none. -/
def lines (s : String) : List String :=
  (linesChars s.toList).map String.ofList

/-- A line is closed if it ends in a line feed or a carriage return. -/
def isClosedLine (line : String) : Bool :=
  match line.toList.getLast? with
  | some c => c = '\n' || c = '\r'
  | none => false

/-- The number of lines, where only a line feed ends a line. -/
def countLines (s : String) : Nat :=
  let feeds := s.toList.count '\n'
  match s.toList.getLast? with
  | none => 0
  | some c => if c = '\n' then feeds else feeds + 1

theorem flatten_consLine (c : Char) (rest : List (List Char)) :
    (consLine c rest).flatten = c :: rest.flatten := by
  cases rest <;> simp [consLine]

/-- Nothing is lost in cutting into lines. -/
theorem flatten_linesChars (cs : List Char) : (linesChars cs).flatten = cs := by
  fun_induction linesChars cs <;> simp_all [flatten_consLine]

end CrudForge.Text
