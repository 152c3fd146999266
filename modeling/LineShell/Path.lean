import LineShell.Text.Pieces

/-!
# Paths

A path as text names it, without looking at any file. A path has an anchor (none, the root, or the
root written with exactly two slashes, which is kept apart) and segments, each a step up or a name.

* `Path.ofText` reads a path: repeated slashes, single dots and a slash at the end say nothing;
* `Path.text` prints it, the empty relative path as a single dot;
* `Path.join` puts a path below another, an anchored one replacing it.
-/

namespace LineShell

open Text

/-! ## 1. Names, segments, anchors -/

/-- A text that can name an entry of a directory: not empty, no dot or two dots alone, no slash. -/
def isName (s : List Char) : Bool :=
  !s.isEmpty && s != ['.'] && s != ['.', '.'] && !s.contains '/'

structure Name where
  text : String
  valid : isName text.toList = true
  deriving DecidableEq

/-- The name that a text is, if it is one. -/
def Name.ofChars? (s : List Char) : Option Name :=
  if h : isName (String.ofList s).toList = true then some ⟨String.ofList s, h⟩ else none

inductive Segment where
  | up
  | down (name : Name)
  deriving DecidableEq

def Segment.text : Segment → String
  | .up => ".."
  | .down n => n.text

/-- Where a path starts: at the directory it is read in, at the root, or at the root written with
    two slashes. -/
inductive Anchor where
  | relative
  | root
  | doubleRoot
  deriving DecidableEq, Repr

def Anchor.text : Anchor → String
  | .relative => ""
  | .root => "/"
  | .doubleRoot => "//"

/-- The anchor a text starts with: exactly two slashes are kept, three or more are one. -/
def Anchor.ofChars : List Char → Anchor
  | '/' :: '/' :: '/' :: _ => .root
  | '/' :: '/' :: _ => .doubleRoot
  | '/' :: _ => .root
  | _ => .relative

structure Path where
  anchor : Anchor := .relative
  segments : List Segment := []
  deriving DecidableEq

namespace Path

/-! ## 2. Reading and printing -/

/-- The segment that a piece between slashes is; the empty piece and the single dot are none. -/
def segment? (s : List Char) : Option Segment :=
  if s = ['.', '.'] then some .up else (Name.ofChars? s).map .down

def ofText (t : String) : Path where
  anchor := Anchor.ofChars t.toList
  segments := (pieces '/' t.toList).filterMap segment?

def text (p : Path) : String :=
  match p.anchor, p.segments with
  | .relative, [] => "."
  | a, ss => a.text ++ "/".intercalate (ss.map Segment.text)

def root : Path := ⟨.root, []⟩

/-- The path starts at the root. -/
def isAbsolute (p : Path) : Bool := p.anchor != .relative

def lastName (p : Path) : String := (p.segments.getLast?.map Segment.text).getD ""

/-- How a command found at this path is named in messages. -/
def displayName (p : Path) : String := if p.lastName = "" then p.text else p.lastName

/-! ## 3. Joining and collapsing -/

/-- The path `q` read from the directory `p`. -/
def join (p q : Path) : Path :=
  match q.anchor with
  | .relative => ⟨p.anchor, p.segments ++ q.segments⟩
  | _ => q

/-- One more segment on a collapsed path (last segment first): a step up takes back the name before
    it, stays where there is none to take, and is dropped at the root. -/
def collapseStep (anchored : Bool) (done : List Segment) : Segment → List Segment
  | .down n => .down n :: done
  | .up =>
    match done with
    | .down _ :: rest => rest
    | .up :: _ => .up :: done
    | [] => if anchored then [] else [.up]

/-- The path with every step up taken back, as far as that can be done without looking at files. -/
def collapse (p : Path) : Path where
  anchor := p.anchor
  segments := (p.segments.foldl (collapseStep p.isAbsolute) []).reverse

/-- The path that `target` names in the directory `p`. -/
def resolve (p : Path) (target : String) : Path := (p.join (ofText target)).collapse

/-! ## 4. The home directory -/

/-- The home directory that a value of the home variable names: slashes at its end say nothing, the
    empty value is the root, and so is a value that starts with a tilde, which names nobody. -/
def ofHome (value : String) : Path :=
  let stripped := (value.toList.reverse.dropWhile (· == '/')).reverse
  match stripped with
  | [] => root
  | '~' :: _ => root
  | _ => ofText (String.ofList stripped)

end Path

end LineShell
