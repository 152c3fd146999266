import LineShell.Fault
import LineShell.Files.Basic

/-!
# Walking a path

How the system finds what a path names. The text of a path falls into steps; a walk takes them one
by one from a place, and follows symbolic links as it meets them.

* every step but the first few needs a directory to stand in (`notDirectory` otherwise);
* `..` is the directory above the place reached, not the name before it: after a link the two
  differ;
* a name longer than 255 bytes is refused, and so is a path of 4096 bytes or more;
* a walk follows 40 links and no more;
* a walk that is going to create the file it ends at may end at a free name; it refuses a name with
  a slash after it.

A place can outlive its directory: `lost` counts the directories below `base` that the place once
had and that are gone. Nothing can be found in a lost directory but the way up.
-/

namespace LineShell

/-! ## 1. Steps -/

/-- One step of a walk. A slash at the end of a path is a step of its own. -/
inductive Step where
  | stay
  | up
  | enter (name : Name)
  | slash
  deriving DecidableEq

/-- The step a piece between slashes asks for. -/
def Step.ofPiece? (s : List Char) : Option Step :=
  if s = ['.'] then some .stay
  else if s = ['.', '.'] then some .up
  else (Name.ofChars? s).map .enter

def Step.ofPath (s : List Char) : List Step :=
  let steps := (Text.pieces '/' s).filterMap ofPiece?
  if !steps.isEmpty && s.getLast? == some '/' then steps ++ [.slash] else steps

def isRooted (s : List Char) : Bool := s.head? == some '/'

/-! ## 2. Places -/

/-- Where a walk stands: a location, and how many directories below it have been removed since. -/
structure Place where
  base : Location
  lost : Nat := 0
  deriving DecidableEq

def Place.root : Place := ⟨[], 0⟩

def Place.parent : Place → Place
  | ⟨base, lost + 1⟩ => ⟨base, lost⟩
  | ⟨base, 0⟩ => ⟨base.tail, 0⟩

/-- The place after `l` has been removed with all below it. -/
def Place.afterRemoval (l : Location) (p : Place) : Place :=
  if l.isSuffixOf p.base then ⟨l.tail, p.lost + (p.base.length - l.tail.length)⟩ else p

/-- What stands at a place; a lost place still is a directory. -/
def Files.at? (files : Files) (p : Place) : Option Node :=
  if p.lost = 0 then files.get? p.base else some .directory

def Files.isDirectoryAt (files : Files) (p : Place) : Bool := files.at? p == some .directory

/-! ## 3. The walk -/

inductive Spot where
  | found (p : Place)
  | absent (directory : Location) (name : Name)
  deriving DecidableEq

/-- The longest name, in bytes. -/
def longestName : Nat := 255

/-- The length from which on a path is refused, in bytes. -/
def pathLimit : Nat := 4096

/-- The links one walk follows. -/
def linkLimit : Nat := 40

/-- Takes steps until the path ends or a link is met, which `follow` takes from there. -/
def Files.advance (files : Files) (creating : Bool)
    (follow : Place → List Step → Except Errno Spot) : Place → List Step → Except Errno Spot
  | here, [] => .ok (.found here)
  | here, step :: rest =>
    if !files.isDirectoryAt here then .error .notDirectory
    else
      match step with
      | .stay => files.advance creating follow here rest
      | .slash => files.advance creating follow here rest
      | .up => files.advance creating follow here.parent rest
      | .enter n =>
        if creating && rest == [.slash] then .error .isDirectory
        else if here.lost ≠ 0 then .error .noEntry
        else if longestName < n.text.utf8ByteSize then .error .nameTooLong
        else
          match files.get? (n :: here.base) with
          | some (.link target) =>
            let start := if isRooted target.toList then Place.root else here
            follow start (Step.ofPath target.toList ++ rest)
          | some _ => files.advance creating follow ⟨n :: here.base, 0⟩ rest
          | none =>
            if creating && rest.isEmpty then .ok (.absent here.base n) else .error .noEntry

/-- Takes steps to the end of the path, following at most the given number of links. -/
def Files.walk (files : Files) (creating : Bool) : Nat → Place → List Step → Except Errno Spot
  | 0 => files.advance creating fun _ _ => .error .tooManyLinks
  | links + 1 => files.advance creating (files.walk creating links)

/-- Finds what a path names, read from the place `start`. -/
def Files.find (files : Files) (creating : Bool) (start : Place) (path : String) :
    Except Errno Spot :=
  if path = "" then .error .noEntry
  else if pathLimit ≤ path.utf8ByteSize then .error .nameTooLong
  else
    let chars := path.toList
    files.walk creating linkLimit (if isRooted chars then .root else start) (Step.ofPath chars)

def Files.findPlace (files : Files) (start : Place) (path : String) : Except Errno Place :=
  match files.find false start path with
  | .ok (.found p) => .ok p
  | .ok (.absent ..) => .error .noEntry
  | .error e => .error e

/-- Finds the directory that a path names. -/
def Files.findDirectory (files : Files) (start : Place) (path : String) : Except Errno Place :=
  match files.findPlace start path with
  | .ok p => if files.isDirectoryAt p then .ok p else .error .notDirectory
  | .error e => .error e

end LineShell
