import LineShell.Bytes
import LineShell.Path

/-!
# The file tree

A tree of files is a list of locations with what stands there. A location is the list of names from
the entry up to the root, so that the directory of `n :: d` is `d`; the root `[]` always is a
directory.

* `Files.get?` is the view: what stands at a location;
* `Files.set` puts something there and keeps everything else;
* `Files.remove` takes a location away with all below it;
* `Files.plant` builds a tree: an entry together with the directories above it.
-/

namespace LineShell

/-! ## 1. Entries -/

/-- The devices a redirection can name: one takes every byte and keeps none, the other refuses
    every byte. -/
inductive Device where
  | null
  | full
  deriving DecidableEq, Repr

/-- A regular file: its bytes, and whether it may be executed. -/
structure File where
  content : Bytes := []
  executable : Bool := false
  deriving DecidableEq, Repr

inductive Node where
  | file (f : File)
  | directory
  | link (target : String)
  | device (d : Device)
  deriving DecidableEq, Repr

/-- A place in the tree: the names from the entry up to the root. -/
abbrev Location := List Name

def Location.text (l : Location) : String :=
  Path.text ⟨.root, l.reverse.map .down⟩

/-! ## 2. The tree -/

structure Files where
  entries : List (Location × Node) := []
  deriving DecidableEq

namespace Files

def get? (files : Files) : Location → Option Node
  | [] => some .directory
  | n :: d => files.entries.lookup (n :: d)

/-- The entries with `node` at `l`: in place of what stands there, or else at the end. -/
def update (l : Location) (node : Node) : List (Location × Node) → List (Location × Node)
  | [] => [(l, node)]
  | (k, v) :: rest => if k = l then (l, node) :: rest else (k, v) :: update l node rest

def set (files : Files) (l : Location) (node : Node) : Files := ⟨update l node files.entries⟩

/-- The tree without `l` and everything below it. -/
def remove (files : Files) (l : Location) : Files :=
  ⟨files.entries.filter fun e => !l.isSuffixOf e.1⟩

/-- The tree with a directory at `l` and above it, where nothing stands yet. -/
def ensureDirectory (files : Files) : Location → Files
  | [] => files
  | n :: d =>
    let files := files.ensureDirectory d
    match files.get? (n :: d) with
    | none => files.set (n :: d) .directory
    | some _ => files

/-- The tree with `node` at `l` and directories above it; a directory that stands there stays. -/
def plant (files : Files) (l : Location) (node : Node) : Files :=
  match node with
  | .directory => files.ensureDirectory l
  | _ => (files.ensureDirectory l.tail).set l node

/-! ## 3. The view of each operation -/

theorem lookup_update (l m : Location) (node : Node) : ∀ es : List (Location × Node),
    (update l node es).lookup m = if m = l then some node else es.lookup m
  | [] => by
    by_cases h : m = l
    · simp [update, h]
    · have hb : (m == l) = false := by simpa using h
      simp [update, List.lookup_cons, hb, h]
  | (k, v) :: rest => by
    have ih := lookup_update l m node rest
    unfold update
    by_cases hk : k = l
    · subst hk
      by_cases h : m = k
      · simp [h]
      · have hb : (m == k) = false := by simpa using h
        simp [List.lookup_cons, hb, h]
    · by_cases h : m = l
      · subst h
        have hb : (m == k) = false := by simpa using fun e => hk e.symm
        simp only [hk, if_false, List.lookup_cons, hb]
        simpa using ih
      · simp only [hk, if_false, List.lookup_cons]
        rw [ih]
        simp [h]

/-- **A write shows at its location and nowhere else.** -/
theorem get?_set (files : Files) (n : Name) (d m : Location) (node : Node) :
    (files.set (n :: d) node).get? m = if m = n :: d then some node else files.get? m := by
  cases m with
  | nil => simp [get?]
  | cons k e => simp only [get?, set]; exact lookup_update _ _ _ _

end Files

end LineShell
