import CrudForge.Settings.Basic
import CrudForge.Settings.Origin
import CrudForge.Settings.Value

/-!
# Settings from several sources

Sources are stacked: each setting has the value of the first source that sets it, and a standard
value if none does. A value of the wrong type counts only where no other source hides it.

## Main definitions

* `Stack` — what the sources say about one place, the first source first.
* `Stack.member` — what they say about a member of that place.
* `Section` — the three groups of settings.
* `Section.value?` — what the sources say about a setting.
* `Mismatch` — a value of the wrong type.
* `Settings.ofStack` — the settings, or the first mismatch.
-/

namespace CrudForge.Settings

structure Sourced where
  origin : Origin
  value : Value

/-- What the sources say about one place, the first source first. -/
abbrev Stack := List Sourced

namespace Stack

/-- What the sources say about a member. A value that is no table hides the sources behind it. -/
def member (stack : Stack) (key : String) : Stack :=
  (stack.takeWhile (·.value.isTable)).filterMap fun s =>
    (s.value.member? key).map (⟨s.origin, ·⟩)

end Stack

inductive Expectation
  | boolean
  | text
  | path
  | group (name : String)
  deriving DecidableEq

namespace Expectation

def describe : Expectation → String
  | boolean => "a boolean"
  | text => "a string"
  | path => "path string"
  | group name => "struct " ++ name

def admits : Expectation → Value → Bool
  | boolean, .truth _ => true
  | text, .text _ => true
  | path, .text _ => true
  | group _, value => value.isSection
  | _, _ => false

end Expectation

/-- A value of the wrong type, at a place in a source. -/
structure Mismatch where
  found : Value
  expected : Expectation
  keys : List String
  origin : Origin

def Mismatch.message (m : Mismatch) : String :=
  "invalid type: found " ++ m.found.describe ++ ", expected " ++ m.expected.describe ++
    " for key " ++ Text.quoted (m.origin.place m.keys) ++ " in " ++ m.origin.describe

inductive Section
  | directories
  | extensions
  | behaviour
  deriving DecidableEq

namespace Section

/-- The sections in the order of their keys. -/
def all : List Section :=
  [extensions, behaviour, directories]

def key : Section → String
  | directories => "paths"
  | extensions => "extensions"
  | behaviour => "generator"

/-- The keys of the members, in the order in which a list gives them. -/
def members : Section → List String
  | directories => ["models_dir", "controllers_dir", "views_dir", "routes_dir", "stubs_dir"]
  | extensions => ["source", "view", "stub"]
  | behaviour => ["strict_types", "embedded_fallback"]

def expectation : Section → Expectation
  | directories => .group "PathSettings"
  | extensions => .group "ExtensionSettings"
  | behaviour => .group "GeneratorSettings"

def memberExpectation : Section → Expectation
  | directories => .path
  | extensions => .text
  | behaviour => .boolean

def stack (s : Section) (sources : Stack) : Stack :=
  sources.member s.key

/-- Whether the first source gives the section as a list. -/
def isListed (s : Section) (sources : Stack) : Bool :=
  match s.stack sources with
  | ⟨_, .list _⟩ :: _ => true
  | _ => false

/-- The value of a member, with its place in the section. -/
def find? (s : Section) (sources : Stack) (name : String) : Option (String × Sourced) :=
  match s.stack sources with
  | ⟨origin, .list items⟩ :: _ =>
    let index := s.members.idxOf name
    items[index]?.map fun value => (toString index, ⟨origin, value⟩)
  | stack => (stack.member name).head?.map (name, ·)

/-- The member, if its value is of the wrong type. -/
def memberMismatch? (s : Section) (sources : Stack) (name : String) : Option Mismatch :=
  match s.find? sources name with
  | none => none
  | some (place, found) =>
    if s.memberExpectation.admits found.value then none
    else
      some
        { found := found.value
          expected := s.memberExpectation
          keys := [s.key, place]
          origin := found.origin }

/-- The section, if it is of the wrong type itself. -/
def ownMismatch? (s : Section) (sources : Stack) : Option Mismatch :=
  match s.stack sources with
  | [] => none
  | top :: _ =>
    if s.expectation.admits top.value then none
    else
      some { found := top.value, expected := s.expectation, keys := [s.key], origin := top.origin }

/-- The members in the order in which they are read: by position in a list, by key in a table. -/
def readingOrder (s : Section) (sources : Stack) : List String :=
  if s.isListed sources then s.members else s.members.mergeSort

/-- All values of the wrong type in the section, in the order of reading. -/
def mismatches (s : Section) (sources : Stack) : List Mismatch :=
  (s.ownMismatch? sources).toList ++
    (s.readingOrder sources).filterMap (s.memberMismatch? sources)

def value? (s : Section) (sources : Stack) (name : String) : Option Value :=
  (s.find? sources name).map (·.2.value)

def text? (s : Section) (sources : Stack) (name : String) : Option String :=
  (s.value? sources name).bind Value.text?

def path? (s : Section) (sources : Stack) (name : String) : Option Path :=
  (s.text? sources name).map (⟨·⟩)

def truth? (s : Section) (sources : Stack) (name : String) : Option Bool :=
  (s.value? sources name).bind Value.truth?

end Section

def mismatches (sources : Stack) : List Mismatch :=
  Section.all.flatMap (·.mismatches sources)

/-- The settings, where a value of the wrong type counts as none. -/
def pick (sources : Stack) : Settings where
  directories :=
    let path := Section.directories.path? sources
    let standard := Settings.standard.directories
    { models := (path "models_dir").getD standard.models
      controllers := (path "controllers_dir").getD standard.controllers
      views := (path "views_dir").getD standard.views
      routes := (path "routes_dir").getD standard.routes
      stubs := (path "stubs_dir").getD standard.stubs }
  extensions :=
    let text := Section.extensions.text? sources
    let standard := Settings.standard.extensions
    { source := (text "source").getD standard.source
      view := (text "view").getD standard.view
      stub := (text "stub").getD standard.stub }
  behaviour :=
    let truth := Section.behaviour.truth? sources
    let standard := Settings.standard.behaviour
    { strictKinds := (truth "strict_types").getD standard.strictKinds
      builtinFallback := (truth "embedded_fallback").getD standard.builtinFallback }

/-- The settings, or the first value of the wrong type. -/
def ofStack (sources : Stack) : Except Mismatch Settings :=
  match mismatches sources with
  | [] => .ok (pick sources)
  | mismatch :: _ => .error mismatch

end CrudForge.Settings
