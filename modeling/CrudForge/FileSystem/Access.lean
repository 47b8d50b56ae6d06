import CrudForge.FileSystem.Basic

/-!
# Access by path

What programs do to files by path: looking, reading, writing, appending, and making directories.
A path is followed name by name from the root or the working directory, and every name but the last
has to lead into a directory.

## Main definitions

* `AccessError` — the ways in which an access fails.
* `FileSystem.locate` — where a path leads.
* `FileSystem.readFile`, `readText` — the content of a file.
* `FileSystem.writeFile`, `appendFile` — the file system with a file written or extended.
* `FileSystem.createDirectory`, `createDirectories` — with one directory, or with all that lead
  to a path.
* `FileSystem.filesBelow` — the paths of the files below a directory.
-/

namespace CrudForge

inductive AccessError
  | missing
  | occupied
  | notDirectory
  | isDirectory
  | nameTooLong
  | notText
  | nulByte
  deriving DecidableEq

def AccessError.message : AccessError → String
  | missing => "No such file or directory (os error 2)"
  | occupied => "File exists (os error 17)"
  | notDirectory => "Not a directory (os error 20)"
  | isDirectory => "Is a directory (os error 21)"
  | nameTooLong => "File name too long (os error 36)"
  | notText => "stream did not contain valid UTF-8"
  | nulByte => "file name contained an unexpected NUL byte"

inductive Step
  | stay
  | up
  | down (name : FileName)
  deriving DecidableEq

/-- The step that a part of a path asks for; an empty part asks for none. -/
def Step.ofSegment? (segment : String) : Option Step :=
  if segment = "." then some .stay
  else if segment = ".." then some .up
  else if h : isFileName segment = true then some (.down ⟨segment, h⟩)
  else none

def Path.steps (p : Path) : List Step :=
  p.segments.filterMap Step.ofSegment?

/-- The greatest size of a name, in bytes. -/
def maxNameSize : Nat := 255

/-- The least size of a path that is too long, in bytes. -/
def pathSizeLimit : Nat := 4096

def FileName.isTooLong (name : FileName) : Bool :=
  maxNameSize < name.text.utf8ByteSize

namespace FileSystem

def walk (fs : FileSystem) : Location → List Step → Except AccessError Location
  | l, [] => .ok l
  | l, step :: steps =>
    match fs.entryAt? l with
    | none => .error .missing
    | some (.file _) => .error .notDirectory
    | some .directory =>
      match step with
      | .stay => walk fs l steps
      | .up => walk fs l.tail steps
      | .down name =>
        if name.isTooLong then .error .nameTooLong
        else if (fs.entryAt? (name :: l)).isNone then .error .missing
        else walk fs (name :: l) steps

/-- What is wrong with the text of a path, whatever the files are. -/
def pathFault? (p : Path) : Option AccessError :=
  if p.text.toList.contains '\x00' then some .nulByte
  else if p.text = "" then some .missing
  else if pathSizeLimit ≤ p.text.utf8ByteSize then some .nameTooLong
  else none

/-- Where the first step of a path starts. -/
def origin (fs : FileSystem) (p : Path) : Location :=
  if p.isAbsolute then [] else fs.workingDirectory

/-- The location that a path leads to. A path that ends in a slash leads to a directory only. -/
def locate (fs : FileSystem) (p : Path) : Except AccessError Location :=
  match pathFault? p with
  | some e => .error e
  | none => fs.walk (fs.origin p) (if p.endsInSlash then p.steps ++ [.stay] else p.steps)

def find (fs : FileSystem) (p : Path) : Except AccessError Entry :=
  match fs.locate p with
  | .error e => .error e
  | .ok l =>
    match fs.entryAt? l with
    | none => .error .missing
    | some e => .ok e

def exists? (fs : FileSystem) (p : Path) : Bool :=
  match fs.find p with
  | .ok _ => true
  | .error _ => false

def isDirectory (fs : FileSystem) (p : Path) : Bool :=
  match fs.find p with
  | .ok .directory => true
  | _ => false

def isFile (fs : FileSystem) (p : Path) : Bool :=
  match fs.find p with
  | .ok (.file _) => true
  | _ => false

def readFile (fs : FileSystem) (p : Path) : Except AccessError ByteArray :=
  match fs.find p with
  | .error e => .error e
  | .ok .directory => .error .isDirectory
  | .ok (.file content) => .ok content

def readText (fs : FileSystem) (p : Path) : Except AccessError String :=
  match fs.readFile p with
  | .error e => .error e
  | .ok content =>
    match String.fromUTF8? content with
    | none => .error .notText
    | some text => .ok text

/-- The last step of a path, as seen from the directory that the other steps lead to. -/
inductive Place (fs : FileSystem)
  | entry (parent : Location) (name : FileName) (inDirectory : fs.entryAt? parent = some .directory)
  | directory

/-- Where an entry of that path would be: the last step need not lead anywhere yet. -/
def place (fs : FileSystem) (p : Path) : Except AccessError (Place fs) :=
  match pathFault? p with
  | some e => .error e
  | none =>
    match p.steps.getLast? with
    | none => .ok .directory
    | some last =>
      match fs.walk (fs.origin p) p.steps.dropLast with
      | .error e => .error e
      | .ok parent =>
        match h : fs.entryAt? parent with
        | none => .error .missing
        | some (.file _) => .error .notDirectory
        | some .directory =>
          match last with
          | .down name => .ok (.entry parent name h)
          | _ => .ok .directory

/-- The file system with the file at `p` replaced by what `content` makes of its old content, which
is empty if there is no such file. -/
def modifyFile (fs : FileSystem) (p : Path) (content : ByteArray → ByteArray) :
    Except AccessError FileSystem :=
  match fs.place p with
  | .error e => .error e
  | .ok .directory => .error .isDirectory
  | .ok (.entry parent name hp) =>
    if p.endsInSlash then .error .isDirectory
    else if name.isTooLong then .error .nameTooLong
    else
      match h : fs.entryAt? (name :: parent) with
      | some .directory => .error .isDirectory
      | some (.file old) =>
        .ok (fs.put name parent (.file (content old)) hp (.inr (by simp [h])))
      | none => .ok (fs.put name parent (.file (content .empty)) hp (.inr (by simp [h])))

def writeFile (fs : FileSystem) (p : Path) (content : ByteArray) :
    Except AccessError FileSystem :=
  fs.modifyFile p fun _ => content

/-- The file system with `content` at the end of the file at `p`, which is made if missing. -/
def appendFile (fs : FileSystem) (p : Path) (content : ByteArray) :
    Except AccessError FileSystem :=
  fs.modifyFile p (· ++ content)

/-- The file system with a directory at `p`, where nothing was. -/
def createDirectory (fs : FileSystem) (p : Path) : Except AccessError FileSystem :=
  match fs.place p with
  | .error e => .error e
  | .ok .directory => .error .occupied
  | .ok (.entry parent name hp) =>
    if name.isTooLong then .error .nameTooLong
    else
      match fs.entryAt? (name :: parent) with
      | some _ => .error .occupied
      | none => .ok (fs.put name parent .directory hp (.inl rfl))

/-- Makes the first path of the list a directory, after the others if it needs them. The second
component of the result is the file system also if that fails half way. -/
def createChain (fs : FileSystem) : List Path → Except AccessError Unit × FileSystem
  | [] => (.ok (), fs)
  | p :: parents =>
    if p.text = "" then (.ok (), fs)
    else
      match fs.createDirectory p with
      | .ok fs' => (.ok (), fs')
      | .error .missing =>
        match createChain fs parents with
        | (.error e, fs') => (.error e, fs')
        | (.ok (), fs') =>
          match fs'.createDirectory p with
          | .ok fs'' => (.ok (), fs'')
          | .error e => if fs'.isDirectory p then (.ok (), fs') else (.error e, fs')
      | .error e => if fs.isDirectory p then (.ok (), fs) else (.error e, fs)

/-- Makes `p` a directory, with all directories that lead to it. -/
def createDirectories (fs : FileSystem) (p : Path) : Except AccessError Unit × FileSystem :=
  fs.createChain p.ancestors

def remove (fs : FileSystem) (p : Path) : Except AccessError FileSystem :=
  match fs.locate p with
  | .error e => .error e
  | .ok [] => .error .isDirectory
  | .ok (name :: parent) => .ok (fs.erase name parent)

/-- The path of a location below the directory `base`, from there. -/
def pathBelow? (base l : Location) : Option Path :=
  match base.isSuffixOf? l with
  | none => none
  | some [] => none
  | some names => some ⟨Text.join "/" (names.reverse.map (·.text))⟩

/-- The entries below the location `base`, by their path from there. -/
def entriesBelow (fs : FileSystem) (base : Location) : List (Path × Entry) :=
  fs.entries.filterMap fun (l, e) => (pathBelow? base l).map (·, e)

/-- The paths, from the directory `p`, of the files below it; none if `p` is no directory. -/
def filesBelow (fs : FileSystem) (p : Path) : List Path :=
  match fs.locate p with
  | .error _ => []
  | .ok base =>
    (fs.entriesBelow base).filterMap fun
      | (path, .file _) => some path
      | (_, .directory) => none

end FileSystem
end CrudForge
