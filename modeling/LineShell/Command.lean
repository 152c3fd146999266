import LineShell.Event
import LineShell.Machine

/-!
# Commands

What a command name stands for.

* A reserved word has a message and nothing else; a reserved word that is a built-in as well is the
  built-in.
* A built-in is carried out by the shell itself.
* Any other name is looked for in the directories of the search path, in order: the first directory
  that has an entry of exactly this name settles it, whatever the entry is. Directories that cannot
  be listed are passed over, with an event each.
-/

namespace LineShell

/-! ## 1. Names the shell knows -/

/-- The commands the shell carries out itself. -/
inductive Builtin where
  | changeDirectory
  | printDirectory
  deriving DecidableEq, Repr

namespace Builtin

def all : List Builtin := [.changeDirectory, .printDirectory]

def name : Builtin → String
  | .changeDirectory => "cd"
  | .printDirectory => "pwd"

def ofName? (name : String) : Option Builtin := all.find? (·.name == name)

end Builtin

abbrev ReservedWords := List (String × String)

def reservedWords : ReservedWords :=
  Builtin.all.map fun b => (b.name, b.name ++ " is a shell builtin")

/-- What a command name stands for. -/
inductive Identity where
  | reserved (name message : String)
  | builtin (b : Builtin)
  | external (path : Path)
  | notFound (name : String)
  deriving DecidableEq

/-- The kind of an identity, as the log calls it. -/
def Identity.kind : Identity → String
  | .reserved .. => "ReservedKeyword"
  | .builtin _ => "BuiltinHandler"
  | .external _ => "ExternalPath"
  | .notFound _ => "NotFound"

/-! ## 2. The search path -/

/-- The directories of a search path; the empty one has none. -/
def searchDirectories (searchPath : String) : List String :=
  if searchPath = "" then [] else (Text.pieces ':' searchPath.toList).map String.ofList

def entryPath (directory name : String) : Path := Path.ofText (Machine.below directory name)

namespace Machine

/-- The search path of a shell on a machine: the one that is given, even if it is empty, or else the
    `PATH` of the environment. -/
def searchPath (m : Machine) (given : Option String) : String :=
  given.getD ((m.environment.get? "PATH").getD "")

/-- Looks for a name in directories, one after another. The answer is the path of the first entry
    of this name, after the events of the directories passed over. -/
def searchIn (m : Machine) (name : String) : List String → List Event × Except Fault (Option Path)
  | [] => ([], .ok none)
  | d :: ds =>
    match m.holds d name with
    | .ok true => ([], .ok (some (entryPath d name)))
    | .ok false => m.searchIn name ds
    | .error (.system number reason subject) =>
      let (events, answer) := m.searchIn name ds
      (.skipped d (.system number reason subject) :: events, answer)
    | .error f => ([], .error f)

def search (m : Machine) (searchPath name : String) : List Event × Except Fault (Option Path) :=
  m.searchIn name (searchDirectories searchPath)

def identify (m : Machine) (reserved : ReservedWords) (searchPath name : String) :
    List Event × Except Fault Identity :=
  match Builtin.ofName? name, reserved.lookup name with
  | some b, _ => ([], .ok (.builtin b))
  | none, some message => ([], .ok (.reserved name message))
  | none, none =>
    let (events, answer) := m.search searchPath name
    (events, answer.map fun
      | some path => .external path
      | none => .notFound name)

end Machine

end LineShell
