import CrudForge.Path
import CrudForge.Command.StubsText

/-!
# The command line

Arguments are read level by level: the program, a command, and a command of that command. Switches
and options with a value stand anywhere on a level, in front of a further command.

## Main definitions

* `Level` — what can be given on a level.
* `Level.read?` — what is given on it, and what comes next.
* `Invocation` — what a whole command line asks for.
* `Invocation.ofArguments?` — reads it; `none` is a mistake in usage.
-/

namespace CrudForge

structure ValueOption where
  name : String
  allowsEmpty : Bool

/-- What can be given on one level of the command line. -/
structure Level where
  switches : List String
  options : List ValueOption
  words : Nat
  commands : List String
  tellsVersion : Bool

/-- What is given on a level: how often `-v`, which switches and options, and which words. -/
structure Given where
  verbosity : Nat
  switches : List String
  values : List (String × String)
  words : List String

inductive LevelEnd
  | finished
  | help
  | version
  | command (name : String) (rest : List String)

namespace Given

def nothing : Given := ⟨0, [], [], []⟩

def moreVerbose (given : Given) : Given :=
  { given with verbosity := given.verbosity + 1 }

/-- A switch that was not given before. -/
def addSwitch? (given : Given) (name : String) : Option Given :=
  if given.switches.contains name then none
  else some { given with switches := name :: given.switches }

/-- An option that was not given before, with its value. -/
def addValue? (given : Given) (option : ValueOption) (value : String) : Option Given :=
  if (given.values.lookup option.name).isSome || (value = "" && !option.allowsEmpty) then none
  else some { given with values := (option.name, value) :: given.values }

/-- A word, if the level has room for it. -/
def addWord? (given : Given) (level : Level) (word : String) : Option Given :=
  if given.words.length < level.words then some { given with words := given.words ++ [word] }
  else none

end Given

inductive Argument
  | separator
  | long (name : String) (value : Option String)
  | short (letters : List Char)
  | word (text : String)

namespace Argument

/-- A lone dash is a word. -/
def ofString (text : String) : Argument :=
  match text.toList with
  | ['-', '-'] => separator
  | '-' :: '-' :: name =>
    match Text.cutFirst? '=' (String.ofList name) with
    | some (name, value) => long name (some value)
    | none => long (String.ofList name) none
  | '-' :: c :: letters => short (c :: letters)
  | _ => word text

/-- Whether an argument can be the value of the option before it. -/
def isWord (text : String) : Bool :=
  match ofString text with
  | word _ => true
  | _ => false

end Argument

namespace Level

/-- Reads the letters behind a dash. -/
def readLetters? (level : Level) (given : Given) : List Char → Option (Given × LevelEnd)
  | [] => some (given, .finished)
  | 'v' :: letters => readLetters? level given.moreVerbose letters
  | 'h' :: _ => some (given, .help)
  | 'V' :: _ => if level.tellsVersion then some (given, .version) else none
  | _ => none

/-- Reads a long name without a value of its own, if it needs none. -/
def readSwitch? (level : Level) (given : Given) (name : String) : Option (Given × LevelEnd) :=
  if name = "help" then some (given, .help)
  else if name = "version" && level.tellsVersion then some (given, .version)
  else if name = "verbose" then some (given.moreVerbose, .finished)
  else if level.switches.contains name then (given.addSwitch? name).map (·, .finished)
  else none

def readWords? (level : Level) (given : Given) (words : List String) : Option Given :=
  words.foldlM (Given.addWord? · level) given

def read? (level : Level) (given : Given) : List String → Option (Given × LevelEnd)
  | [] => some (given, .finished)
  | argument :: rest =>
    match Argument.ofString argument with
    | .separator => (readWords? level given rest).map (·, .finished)
    | .word text =>
      if level.commands.contains text then some (given, .command text rest)
      else
        match given.addWord? level text with
        | none => none
        | some given => read? level given rest
    | .short letters =>
      match readLetters? level given letters with
      | some (given, .finished) => read? level given rest
      | result => result
    | .long name attached =>
      match level.options.find? (·.name = name), attached, rest with
      | some option, some value, rest =>
        match given.addValue? option value with
        | none => none
        | some given => read? level given rest
      | some option, none, value :: rest =>
        match if Argument.isWord value then given.addValue? option value else none with
        | none => none
        | some given => read? level given rest
      | some _, none, [] => none
      | none, some _, _ => none
      | none, none, rest =>
        match readSwitch? level given name with
        | some (given, .finished) => read? level given rest
        | result => result

def commonOptions : List ValueOption :=
  [⟨"root", false⟩, ⟨"config", false⟩]

def program : Level where
  switches := []
  options := commonOptions
  words := 0
  commands := ["crud", "stubs", "help"]
  tellsVersion := true

def scaffold : Level where
  switches := ["strict", "force", "dry-run"]
  options := ⟨"fields", true⟩ :: commonOptions
  words := 1
  commands := []
  tellsVersion := false

def stubs : Level where
  switches := []
  options := commonOptions
  words := 0
  commands := ["publish", "list", "diff", "help"]
  tellsVersion := false

def stubsCommand (switches : List String) (words : Nat) : Level where
  switches
  options := commonOptions
  words
  commands := []
  tellsVersion := false

end Level

inductive Task
  | scaffold (name fields : String) (strict force dryRun : Bool)
  | stubs (request : Stubs.Request)

inductive Invocation
  | help
  | version
  | run (verbosity : Nat) (root settingsFile : Option Path) (task : Task)

namespace Invocation

/-- A task with the options of all levels, the innermost first. The innermost one counts. -/
def ofLevels (levels : List Given) (task : Task) : Invocation :=
  let path (name : String) : Option Path :=
    (levels.findSome? fun given => given.values.lookup name).map (⟨·⟩)
  let verbosity := ((levels.map (·.verbosity)).find? (0 < ·)).getD 0
  run verbosity (path "root") (path "config") task

def ofInnermost? (level : Level) (outer : List Given) (arguments : List String)
    (task? : Given → Option Task) : Option Invocation :=
  match level.read? .nothing arguments with
  | some (given, .finished) => (task? given).map (ofLevels (given :: outer))
  | some (_, .help) => some help
  | _ => none

def scaffold? (given : Given) : Option Task :=
  match given.words with
  | [name] =>
    some (.scaffold name ((given.values.lookup "fields").getD "") (given.switches.contains "strict")
      (given.switches.contains "force") (given.switches.contains "dry-run"))
  | _ => none

def compare? (given : Given) : Option Task :=
  match given.words with
  | [name] => some (.stubs (.compare name))
  | _ => none

def helpTopics : List (List String) :=
  [[], ["crud"], ["stubs"], ["help"]] ++ Level.stubs.commands.map (["stubs", ·])

def helpOn? (topic : List String) : Option Invocation :=
  if helpTopics.contains topic then some help else none

def ofStubs? (outer : List Given) (arguments : List String) : Option Invocation :=
  match Level.stubs.read? .nothing arguments with
  | some (_, .help) => some help
  | some (given, .command "publish" rest) =>
    ofInnermost? (.stubsCommand ["force"] 0) (given :: outer) rest fun inner =>
      some (.stubs (.publish (inner.switches.contains "force")))
  | some (given, .command "list" rest) =>
    ofInnermost? (.stubsCommand [] 0) (given :: outer) rest fun _ => some (.stubs .list)
  | some (given, .command "diff" rest) =>
    ofInnermost? (.stubsCommand [] 1) (given :: outer) rest compare?
  | some (_, .command "help" rest) => helpOn? ("stubs" :: rest)
  | _ => none

/-- What a command line asks for, without the name of the program. -/
def ofArguments? (arguments : List String) : Option Invocation :=
  match Level.program.read? .nothing arguments with
  | some (_, .help) => some help
  | some (_, .version) => some version
  | some (given, .command "crud" rest) => ofInnermost? .scaffold [given] rest scaffold?
  | some (given, .command "stubs" rest) => ofStubs? [given] rest
  | some (_, .command "help" rest) => helpOn? rest
  | _ => none

end Invocation
end CrudForge
