import LineShell.Text.Blank
import LineShell.Text.Clusters
import LineShell.Text.Pieces

/-!
# Wrapped text

A text laid out in a column of fixed width.

* a line feed ends a line, a tab goes on to the next multiple of eight columns;
* a line breaks before a word that does not fit, the blanks before it staying where they are; a word
  wider than the column is cut where the column ends, but not within a cluster;
* blanks that stand beyond the column at the end of a line are dropped, and so is all else there.
-/

namespace LineShell.Text

/-! ## 1. Preparing -/

/-- A line with spaces in place of its tabs. `column` columns are taken already, and `current` is
    what stands between them and here (last glyph first); `afterMark` tells whether a marked tab
    came last. The spaces are marked if the tab is, and a piece ends with them then. -/
def expandTabs (column : Nat) (current : List Glyph) (afterMark : Bool) :
    List Glyph → List Glyph
  | [] => current.reverse
  | g :: gs =>
    let g := if afterMark then { g with opens := true } else g
    if g.char = '\t' then
      let part := (g.blanked :: current).reverse
      let reached := column + columns (charsOf part)
      let gap := (8 - reached % 8) % 8
      part ++ List.replicate gap ⟨' ', false, g.marked⟩ ++
        expandTabs (reached + gap) [] g.marked gs
    else expandTabs column (g :: current) false gs

/-- A line cut before each word but the first, every word keeping the blanks after it. `current` is
    the piece begun so far (last glyph first). -/
def wordsFrom (current : List Glyph) (seen afterBlank : Bool) : List Glyph → List (List Glyph)
  | [] => [current.reverse]
  | g :: gs =>
    if isBlank g.char then wordsFrom (g :: current) seen seen gs
    else if seen && afterBlank then current.reverse :: wordsFrom [g] true false gs
    else wordsFrom (g :: current) true false gs

/-! ## 2. Breaking -/

/-- Clusters in pieces of at most `width` columns each. `current` is the piece begun so far and
    `taken` its columns. -/
def chopFrom (width : Nat) (current : List Glyph) (taken : Nat) : List Cluster → List (List Glyph)
  | [] => [current]
  | k :: ks =>
    if width < taken + k.columns then current :: chopFrom width k.glyphs k.columns ks
    else chopFrom width (current ++ k.glyphs) (taken + k.columns) ks

/-- A text in pieces of at most `width` columns each. -/
def chopped (width : Nat) (gs : List Glyph) : List (List Glyph) := chopFrom width [] 0 (clusters gs)

/-- Lines in the making: those finished (last one first), the one begun, and its columns. -/
structure Lines where
  done : List (List Glyph) := []
  current : List Glyph := []
  taken : Nat := 0

namespace Lines

def isFresh (l : Lines) : Bool := l.done.isEmpty && l.current.isEmpty

def start (l : Lines) (gs : List Glyph) : Lines :=
  if l.isFresh then ⟨[], gs, columns (charsOf gs)⟩
  else ⟨l.current :: l.done, gs, columns (charsOf gs)⟩

def add (width : Nat) (l : Lines) (word : List Glyph) : Lines :=
  let needed := columns (trimEnd (charsOf word))
  if l.taken + needed ≤ width then
    { l with current := l.current ++ word, taken := l.taken + columns (charsOf word) }
  else if width < needed then (chopped width word).foldl start l
  else l.start word

def toList (l : Lines) : List (List Glyph) := (l.current :: l.done).reverse

end Lines

/-! ## 3. Fitting -/

/-- The end of a line with the blanks beyond the column dropped. -/
def cropEnd (width : Nat) (gs : List Glyph) : List Glyph :=
  let blanks := gs.length - (trimEnd (charsOf gs)).length
  gs.take (gs.length - min blanks (gs.length - width))

/-- The clusters that fill `width` columns; one that would go beyond them becomes a space. -/
def cutAt (width : Nat) : List Cluster → List Cluster
  | [] => []
  | k :: ks =>
    if width = 0 then []
    else if k.columns ≤ width then k :: cutAt (width - k.columns) ks
    else [⟨(k.glyphs.head?.map (·.blanked)).toList, 1⟩]

/-- A line as it stands in the column: no blanks beyond it, as far as characters go, and no columns
    more than it has. -/
def fitted (width : Nat) (gs : List Glyph) : List Glyph :=
  let gs := cropEnd width gs
  if columns (charsOf gs) ≤ width then gs else textOfClusters (cutAt width (clusters gs))

/-- A text laid out in a column of `width` columns. -/
def wrapped (width : Nat) (gs : List Glyph) : List (List Glyph) :=
  (piecesBy (·.char == '\n') gs).flatMap fun line =>
    (((wordsFrom [] false false (expandTabs 0 [] false line)).foldl
      (Lines.add width) {}).toList).map (fitted width)

/-! ## 4. Filling -/

/-- A piece that takes exactly `room` columns. -/
def sized (room : Nat) (p : List Char) : List Char :=
  if room = 0 then []
  else if columns p ≤ room then padded room p
  else charsOf (textOfClusters (cutAt room (clusters (glyphs [] p))))

/-- Pieces that take `room` columns together: the one that reaches the end is the last. -/
def cropped (room : Nat) : List (List Char) → List (List Char)
  | [] => []
  | p :: ps => if columns p < room then p :: cropped (room - columns p) ps else [sized room p]

/-- Pieces measured one by one: what they lack is added as a piece of spaces, what they have in
    excess is cut off. -/
def settled (width : Nat) (ps : List (List Char)) : List (List Char) :=
  if writtenColumns ps ≤ width then ps ++ [List.replicate (width - writtenColumns ps) ' ']
  else cropped width ps

/-- A line filled up with spaces to the width of the column. The spaces belong to its last piece
    unless that is marked; then the pieces are settled, and once more, since a piece that was cut
    may have come out narrower. -/
def filled (width : Nat) (gs : List Glyph) : List Char :=
  let ps := piecesFrom [] (gs ++ spacesAfter gs (width - columns (charsOf gs)))
  (settled width (settled width ps)).flatten

end LineShell.Text
