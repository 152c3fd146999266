import LineShell.Text.Letters
import LineShell.Text.Span

/-!
# Patterns

Where a pattern stands in a text. A pattern tries its ways to go on from a cursor, the preferred one
first, and leaves it to what comes after it which way is taken.

* `lazily` prefers few repetitions, the others many;
* `edge`, `noEdge` and `notAfter` look around and take nothing;
* `spans` searches a text from left to right for matches that do not overlap: all that they mark.
-/

namespace LineShell.Text

/-- A place in a text: the character before it, what follows, and its position; and what has been
    marked on the way to it. -/
structure Cursor where
  before : Option Char := none
  rest : List Char
  position : Nat := 0
  marked : List Span := []

def Cursor.advance? (s : Cursor) : Option Cursor :=
  match s.rest with
  | [] => none
  | c :: cs => some { s with before := some c, rest := cs, position := s.position + 1 }

/-- A pattern: from a cursor and what comes after the pattern to the end of the match. -/
abbrev Pattern := Cursor → (Cursor → Option Cursor) → Option Cursor

namespace Pattern

/-! ## 1. Building patterns -/

/-- One character of a class. -/
def one (p : Char → Bool) : Pattern := fun s next =>
  if (s.rest.head?.map p).getD false then s.advance?.bind next else none

def nothing : Pattern := fun s next => next s

def both (a b : Pattern) : Pattern := fun s next => a s fun s => b s next

def either (a b : Pattern) : Pattern := fun s next =>
  match a s next with
  | some r => some r
  | none => b s next

def all : List Pattern → Pattern
  | [] => nothing
  | [p] => p
  | p :: ps => both p (all ps)

/-- The first of several patterns that leads to a match. -/
def first : List Pattern → Pattern
  | [] => fun _ _ => none
  | [p] => p
  | p :: ps => either p (first ps)

def chars (t : String) : Pattern := all (t.toList.map fun c => one (· == c))

/-- A pattern `least` to `most` times, as often as possible. -/
def between (least most : Nat) (p : Pattern) : Pattern :=
  match most with
  | 0 => if least = 0 then nothing else fun _ _ => none
  | most + 1 => fun s next =>
    match p s fun s' => between (least - 1) most p s' next with
    | some r => some r
    | none => if least = 0 then next s else none

/-- A pattern any number of times, as often as possible. It takes a character or more each time. -/
def many (p : Pattern) : Pattern := fun s next => between 0 s.rest.length p s next

def several (p : Pattern) : Pattern := both p (many p)

def optional (p : Pattern) : Pattern := between 0 1 p

/-- A pattern at most `most` times, as seldom as possible. -/
def atMostLazily (most : Nat) (p : Pattern) : Pattern :=
  match most with
  | 0 => nothing
  | most + 1 => fun s next =>
    match next s with
    | some r => some r
    | none => p s fun s' => atMostLazily most p s' next

/-- A pattern any number of times, as seldom as possible. It takes a character or more each time. -/
def lazily (p : Pattern) : Pattern := fun s next => atMostLazily s.rest.length p s next

/-- Not right after a character of a class. -/
def notAfter (p : Char → Bool) : Pattern := fun s next =>
  if (s.before.map p).getD false then none else next s

/-- The cursor is at an end of a word. -/
def atEdge (s : Cursor) : Bool :=
  (s.before.map isWordChar).getD false != (s.rest.head?.map isWordChar).getD false

def edge : Pattern := fun s next => if atEdge s then next s else none

def noEdge : Pattern := fun s next => if atEdge s then none else next s

/-- A pattern that marks what it takes, if that is anything. -/
def group (p : Pattern) : Pattern := fun s next =>
  p s fun s' =>
    if s.position < s'.position then
      next { s' with marked := ⟨s.position, s'.position⟩ :: s'.marked }
    else next s'

/-! ## 2. Searching -/

/-- The cursor behind the match at a cursor, or behind the next character where there is none. -/
def step? (p : Pattern) (s : Cursor) : Option Cursor :=
  match p s some with
  | some s' => if s.position < s'.position then some s' else s.advance?
  | none => s.advance?

/-- What the matches from a cursor on mark, at most `steps` places being tried. -/
def spansFrom (p : Pattern) : Nat → Cursor → List Span
  | 0, _ => []
  | steps + 1, s =>
    match step? p s with
    | some s' => s'.marked ++ spansFrom p steps { s' with marked := [] }
    | none => []

/-- What the matches in a text mark. -/
def spans (p : Pattern) (s : List Char) : List Span := spansFrom p (s.length + 1) { rest := s }

end Pattern

end LineShell.Text
