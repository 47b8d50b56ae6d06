import CrudForge.FileSystem.Access

/-!
# Storing files

Writing and extending files in directories that may still have to be made.
-/

namespace CrudForge

/-- What could not be written, and why: a directory on the way, or the file itself. -/
inductive WriteError
  | directory (path : Path) (cause : AccessError)
  | file (path : Path) (cause : AccessError)
  deriving DecidableEq

namespace WriteError

def path : WriteError → Path
  | directory path _ => path
  | file path _ => path

def cause : WriteError → AccessError
  | directory _ cause => cause
  | file _ cause => cause

def message (e : WriteError) : String :=
  "failed to write " ++ e.path.text ++ ": " ++ e.cause.message

end WriteError

namespace FileSystem

/-- Makes the directories that lead to `p`. -/
def createParents (fs : FileSystem) (p : Path) : Except WriteError Unit × FileSystem :=
  match p.parent? with
  | none => (.ok (), fs)
  | some parent =>
    match fs.createDirectories parent with
    | (.ok (), fs') => (.ok (), fs')
    | (.error e, fs') => (.error (.directory parent e), fs')

/-- Makes the directories that lead to `p`, then the file by `write`. -/
def storeWith (fs : FileSystem) (p : Path) (write : FileSystem → Except AccessError FileSystem) :
    Except WriteError Unit × FileSystem :=
  match fs.createParents p with
  | (.error e, fs') => (.error e, fs')
  | (.ok (), fs') =>
    match write fs' with
    | .ok fs'' => (.ok (), fs'')
    | .error e => (.error (.file p e), fs')

def storeText (fs : FileSystem) (p : Path) (text : String) : Except WriteError Unit × FileSystem :=
  fs.storeWith p fun fs' => fs'.writeFile p text.toUTF8

/-- Writes the text at the end of the file `p`. -/
def extendText (fs : FileSystem) (p : Path) (text : String) : Except WriteError Unit × FileSystem :=
  fs.storeWith p fun fs' => fs'.appendFile p text.toUTF8

end FileSystem
end CrudForge
