/-!
# Redirections

A line may send what a command writes into files. Among the words of the line the operators `>`,
`1>`, `>>`, `1>>`, `2>` and `2>>` take the word that follows them as the name of a file:

* only a word that is exactly an operator counts, and the word it takes may be any word, an
  operator too;
* an operator that ends the line has nothing to take and is an ordinary argument;
* of several redirections of one channel the last names the file, while an appending one makes the
  channel append wherever it stands.
-/

namespace LineShell

inductive Channel where
  | output
  | error
  deriving DecidableEq, Repr

namespace Redirect

/-! ## 1. Operators -/

structure Operator where
  channel : Channel
  append : Bool
  deriving DecidableEq, Repr

def Operator.ofWord? (w : String) : Option Operator :=
  if w = ">" ∨ w = "1>" then some ⟨.output, false⟩
  else if w = ">>" ∨ w = "1>>" then some ⟨.output, true⟩
  else if w = "2>" then some ⟨.error, false⟩
  else if w = "2>>" then some ⟨.error, true⟩
  else none

def isOperator (w : String) : Bool := (Operator.ofWord? w).isSome

/-! ## 2. What a line redirects -/

/-- The redirections of one channel taken together. -/
structure Capture where
  file : Option String := none
  append : Bool := false
  deriving DecidableEq, Repr

/-- One more redirection of the channel, standing before those already taken. -/
def Capture.before (append : Bool) (file : String) (c : Capture) : Capture where
  file := c.file.or (some file)
  append := append || c.append

/-- The words of a line with its redirections taken out. -/
structure Parsed where
  arguments : List String := []
  output : Capture := {}
  error : Capture := {}
  deriving DecidableEq, Repr

namespace Parsed

def capture (p : Parsed) : Channel → Capture
  | .output => p.output
  | .error => p.error

def argument (w : String) (p : Parsed) : Parsed := { p with arguments := w :: p.arguments }

/-- One more redirection in front. -/
def redirect (op : Operator) (file : String) (p : Parsed) : Parsed :=
  match op.channel with
  | .output => { p with output := p.output.before op.append file }
  | .error => { p with error := p.error.before op.append file }

end Parsed

/-- Takes the redirections out of the words of a line, from left to right: an operator with a word
    after it takes that word. -/
def parse : List String → Parsed
  | [] => {}
  | [w] => { arguments := [w] }
  | w :: operand :: rest =>
    match Operator.ofWord? w with
    | some op => (parse rest).redirect op operand
    | none => (parse (operand :: rest)).argument w

end Redirect

end LineShell
