import LineShell.Redirect
import LineShell.Word

/-!
# Plans

A plan is one line made ready to run: the command name, its arguments, and for each channel the
file it goes to, if it is redirected. A line that names no command has no plan.
-/

namespace LineShell

/-- A file that a channel is redirected to: its path as typed, and whether what it holds is kept. -/
structure Target where
  path : String
  append : Bool
  deriving DecidableEq, Repr

/-- The file a channel goes to after all its redirections. -/
def Redirect.Capture.target? (c : Redirect.Capture) : Option Target :=
  c.file.map fun path => ⟨path, c.append⟩

structure Plan where
  command : String
  arguments : List String := []
  output : Option Target := none
  error : Option Target := none
  deriving DecidableEq, Repr

namespace Plan

def target? (p : Plan) : Channel → Option Target
  | .output => p.output
  | .error => p.error

def ofWords? (words : List String) : Option Plan :=
  let parsed := Redirect.parse words
  match parsed.arguments with
  | [] => none
  | command :: arguments =>
    some ⟨command, arguments, parsed.output.target?, parsed.error.target?⟩

def ofLine? (line : String) : Option Plan := ofWords? (Word.split line)

end Plan

end LineShell
