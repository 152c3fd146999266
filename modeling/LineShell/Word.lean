import LineShell.Text.Blank

/-!
# Words

How a line falls into words. A scanner goes through the line once, from left to right:

* blanks separate words, except inside quotes and after a backslash;
* between single quotes every character stands for itself;
* between double quotes a backslash escapes the dollar sign, the double quote and the backslash;
  before any other character it stands for itself;
* outside quotes a backslash makes the next character stand for itself;
* quotes and escapes that the line leaves open are closed by its end, and a word that turns out
  empty is dropped.
-/

namespace LineShell.Word

open LineShell.Text

/-! ## 1. The state of the scanner -/

/-- What the next character is read as part of. -/
inductive Mode where
  | bare
  | single
  | double
  deriving DecidableEq, Repr

/-- The scanner between two characters: the mode, whether a backslash is waiting for the character
    it escapes, the word begun so far (last character first) and the words already finished (last
    word first). -/
structure Scan where
  mode : Mode := .bare
  pending : Bool := false
  current : List Char := []
  done : List (List Char) := []
  deriving DecidableEq, Repr

namespace Scan

def push (c : Char) (s : Scan) : Scan := { s with current := c :: s.current }

/-- The current word is finished; an empty one leaves no trace. -/
def close (s : Scan) : Scan :=
  if s.current.isEmpty then s
  else { s with current := [], done := s.current.reverse :: s.done }

def words (s : Scan) : List (List Char) := s.close.done.reverse

/-- Outside quotes with no escape waiting: what has been read so far says nothing about how the
    rest is read. -/
def atRest (s : Scan) : Bool := s.mode == .bare && !s.pending

end Scan

/-! ## 2. One character -/

/-- The characters a backslash escapes between double quotes. -/
def isEscapable (c : Char) : Bool := c == '$' || c == '"' || c == '\\'

def Scan.stepBare (s : Scan) (c : Char) : Scan :=
  if s.pending then { s.push c with pending := false }
  else if c = '\\' then { s with pending := true }
  else if c = '\'' then { s with mode := .single }
  else if c = '"' then { s with mode := .double }
  else if isBlank c then s.close
  else s.push c

def Scan.stepSingle (s : Scan) (c : Char) : Scan :=
  if c = '\'' then { s with mode := .bare } else s.push c

def Scan.stepDouble (s : Scan) (c : Char) : Scan :=
  if s.pending then
    let s := { s with pending := false }
    if isEscapable c then s.push c else (s.push '\\').push c
  else if c = '\\' then { s with pending := true }
  else if c = '"' then { s with mode := .bare }
  else s.push c

/-- The scanner after one more character. -/
def Scan.step (s : Scan) (c : Char) : Scan :=
  match s.mode with
  | .bare => s.stepBare c
  | .single => s.stepSingle c
  | .double => s.stepDouble c

/-! ## 3. The line -/

/-- The scanner after the whole of `cs`, from the state `s`. -/
def Scan.run (s : Scan) (cs : List Char) : Scan := cs.foldl Scan.step s

@[simp] theorem Scan.run_nil (s : Scan) : s.run [] = s := rfl

@[simp] theorem Scan.run_cons (s : Scan) (c : Char) (cs : List Char) :
    s.run (c :: cs) = (s.step c).run cs := rfl

theorem Scan.run_append (s : Scan) (cs ds : List Char) :
    s.run (cs ++ ds) = (s.run cs).run ds := List.foldl_append

def splitChars (cs : List Char) : List (List Char) := (Scan.run {} cs).words

def split (line : String) : List String := (splitChars line.toList).map String.ofList

end LineShell.Word
