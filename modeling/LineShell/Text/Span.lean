/-!
# Spans

Parts of a text, given by positions.
-/

namespace LineShell.Text

/-- A part of a text: the positions of its first character and of the one after its last. -/
structure Span where
  start : Nat
  stop : Nat
  deriving DecidableEq, Repr

namespace Span

def holds (s : Span) (position : Nat) : Bool :=
  decide (s.start ≤ position) && decide (position < s.stop)

/-- The part begins at this position, or has ended there. -/
def isBoundedAt (s : Span) (position : Nat) : Bool := s.start == position || s.stop == position

end Span

end LineShell.Text
