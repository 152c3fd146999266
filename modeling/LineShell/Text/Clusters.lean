import LineShell.Text.Columns
import LineShell.Text.Span

/-!
# Clusters

A text as it is laid out. Parts of it may be marked. It is written in pieces, one after another,
each measured on its own: what is marked, and what stands between. The characters of a cluster are
not torn apart when a line is cut: what takes no columns stands with what is before it, and so does
what is joined to it.
-/

namespace LineShell.Text

/-! ## 1. Glyphs -/

/-- A character of a text in pieces. -/
structure Glyph where
  char : Char
  /-- A piece begins with it. -/
  opens : Bool := false
  /-- It belongs to a marked part. -/
  marked : Bool := false
  deriving DecidableEq, Repr

/-- A space in the place of a character. -/
def Glyph.blanked (g : Glyph) : Glyph := { g with char := ' ' }

def charsOf (gs : List Glyph) : List Char := gs.map (·.char)

/-- A text with its marked parts; the first character is at `position`. -/
def glyphsFrom (parts : List Span) (position : Nat) : List Char → List Glyph
  | [] => []
  | c :: cs =>
    ⟨c, parts.any (·.isBoundedAt position), parts.any (·.holds position)⟩ ::
      glyphsFrom parts (position + 1) cs

def glyphs (parts : List Span) (s : List Char) : List Glyph := glyphsFrom parts 0 s

/-- `n` spaces after a text: what is marked ends before them. -/
def spacesAfter (gs : List Glyph) (n : Nat) : List Glyph :=
  match n with
  | 0 => []
  | n + 1 =>
    ⟨' ', (gs.getLast?.map (·.marked)).getD false, false⟩ :: List.replicate n ⟨' ', false, false⟩

/-- The pieces of a text. `current` is the one begun so far (last character first). -/
def piecesFrom (current : List Char) : List Glyph → List (List Char)
  | [] => [current.reverse]
  | g :: gs =>
    if g.opens then current.reverse :: piecesFrom [g.char] gs else piecesFrom (g.char :: current) gs

/-- The columns of a text that is written piece by piece. -/
def writtenColumns : List (List Char) → Nat
  | [] => 0
  | p :: ps => columns p + writtenColumns ps

/-! ## 2. Clusters -/

/-- Glyphs that stand together, and the columns they take. -/
structure Cluster where
  glyphs : List Glyph
  columns : Nat
  deriving DecidableEq, Repr

/-- One more glyph in the last of the clusters (which stands first here), and the columns it adds
    there. -/
def attach (g : Glyph) (extra : Nat) : List Cluster → List Cluster
  | [] => [⟨[g], extra⟩]
  | k :: ks => ⟨k.glyphs ++ [g], k.columns + extra⟩ :: ks

/-- The clusters of a text that goes on after those in `done` (last one first) and the character
    `last` with columns of its own; the first glyph is part of the last cluster if it is joined. -/
def clustersFrom (done : List Cluster) (last : Option Char) (joined : Bool) :
    List Glyph → List Cluster
  | [] => done.reverse
  | g :: gs =>
    if joined then clustersFrom (attach g 0 done) last false gs
    else if g.char = joiner then clustersFrom (attach g 0 done) last (!done.isEmpty) gs
    else if g.char = emojiSelector then clustersFrom (attach g (widening last) done) none false gs
    else if columnsOf g.char = 0 then clustersFrom (attach g 0 done) last false gs
    else clustersFrom (⟨[g], columnsOf g.char⟩ :: done) (some g.char) false gs

def clusters (gs : List Glyph) : List Cluster := clustersFrom [] none false gs

def textOfClusters (ks : List Cluster) : List Glyph := ks.flatMap (·.glyphs)

end LineShell.Text
