import CrudForge.Text.EscapedTable
import CrudForge.Text.Word

/-!
# Quoted texts

A text between double quotes in which every character can be seen.
-/

namespace CrudForge.Text

/-- One character of a quoted text: the usual short escapes, a number in braces for what cannot be
shown, else the character itself. -/
def quoteChar (c : Char) : List Char :=
  match c with
  | '"' => ['\\', '"']
  | '\\' => ['\\', '\\']
  | '\n' => ['\\', 'n']
  | '\r' => ['\\', 'r']
  | '\t' => ['\\', 't']
  | '\x00' => ['\\', '0']
  | _ =>
    if inRanges escapedRanges c.toNat then
      ['\\', 'u', '\x7b'] ++ Nat.toDigits 16 c.toNat ++ ['\x7d']
    else
      [c]

def quoted (s : String) : String :=
  String.ofList ('"' :: s.toList.flatMap quoteChar ++ ['"'])

end CrudForge.Text
