/-!
# Character classes given by ranges

The shape of all the tables of characters: blanks, letters, digits, characters without a printed
form, wide ones and those of no width.
-/

namespace LineShell.Text

/-- The code point of the character lies in one of the ranges, ends included. -/
def inRanges (ranges : List (Nat × Nat)) (c : Char) : Bool :=
  ranges.any fun r => decide (r.1 ≤ c.toNat) && decide (c.toNat ≤ r.2)

end LineShell.Text
