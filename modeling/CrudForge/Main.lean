import CrudForge.Command.Program
import CrudForge.FileSystem.Change

/-!
# The command line

Takes what the disk has at the paths of a run, runs the program on it, and writes back what the run
changed.
-/

namespace CrudForge.Main

def environment : IO Environment := do
  let bytes ← IO.FS.readBinFile "/proc/self/environ"
  let text := (String.fromUTF8? bytes).getD ""
  return ⟨(Text.cut '\x00' text).filterMap (Text.cutFirst? '=')⟩

def withDirectory (fs : FileSystem) (p : String) : FileSystem :=
  (fs.createDirectories ⟨p⟩).2

def withFile (fs : FileSystem) (p : String) (content : ByteArray) : FileSystem :=
  match fs.writeFile ⟨p⟩ content with
  | .ok fs' => fs'
  | .error _ => fs

/-- Adds what the disk has at the path, and all below it. -/
partial def captureTree (fs : FileSystem) (p : String) : IO FileSystem := do
  let place ← IO.FS.realPath p
  if ← place.isDir then
    let names := (← place.readDir).toList.map (·.fileName)
    names.foldlM (fun fs name => captureTree fs (p ++ "/" ++ name)) (withDirectory fs p)
  else
    return withFile fs p (← IO.FS.readBinFile p)

/-- Adds the file or directory that the disk has at the path, if it has one. -/
def captureEntry (fs : FileSystem) (p : Path) : IO FileSystem := do
  try
    let place ← IO.FS.realPath p.text
    if ← place.isDir then return withDirectory fs p.text
    else return withFile fs p.text (← IO.FS.readBinFile p.text)
  catch _ => return fs

/-- Adds what the disk has at the path, with what leads there. -/
def capture (fs : FileSystem) (p : Path) : IO FileSystem := do
  let full := (Settings.pathOf fs.workingDirectory).join p
  let fs ← full.ancestors.reverse.foldlM captureEntry fs
  try captureTree fs full.text catch _ => return fs

/-- No files but an empty working directory. -/
def start (directory : String) : FileSystem :=
  let fs := withDirectory .empty directory
  match fs.locate ⟨directory⟩ with
  | .ok l => fs.within l
  | .error _ => fs

/-- The files at which a run looks: first for its settings, then for the rest. -/
def snapshot (env : Environment) (arguments : List String) : IO FileSystem := do
  let empty := start (← IO.currentDir).toString
  let settings ← (Program.footprint empty env arguments).foldlM capture empty
  (Program.footprint settings env arguments).foldlM capture settings

def store (change : Path × Change) : IO Unit := do
  let place := "/" ++ change.1.text
  match change.2 with
  | .set .directory => IO.FS.createDirAll place
  | .set (.file content) => IO.FS.writeBinFile place content
  | .removed => return

/-- Asks whether to replace files, where there is a terminal to ask on. -/
def ask (fs : FileSystem) (env : Environment) (arguments : List String) :
    IO (Scaffold.Answer × String) := do
  match Program.question? fs env arguments with
  | none => return (.noTerminal, "")
  | some told =>
    let input ← IO.getStdin
    let errors ← IO.getStderr
    if (← input.isTty) && (← errors.isTty) then
      IO.print told
      errors.putStr "Overwrite them? [y/N] "
      errors.flush
      return (Scaffold.answerOfKeys (← input.getLine), told)
    else
      return (.noTerminal, "")

end CrudForge.Main

open CrudForge in
/-- Generates the files of a resource, or manages the stubs that they are made from. -/
def main (arguments : List String) : IO UInt32 := do
  let env ← Main.environment
  let fs ← Main.snapshot env arguments
  let (answer, told) ← Main.ask fs env arguments
  let outcome := Program.run fs env arguments answer
  (FileSystem.changes (fs.within []) (outcome.files.within [])).forM Main.store
  IO.print (outcome.output.drop told.length)
  IO.eprint outcome.errors
  return outcome.exitCode.toUInt32
