import LineShell.Shell

/-!
# Built-ins

What the shell carries out itself.

* `cd` moves the machine and then the session, and says on the output where it is now; when the
  machine cannot move, nothing changes and the output has the reason, which is never blank;
* `pwd` writes the directory of the session, whatever its arguments are.
-/

namespace LineShell

/-! ## 1. Moving -/

def defaultMoveReason : String := "No such file or directory"

/-- The reason of a move that was refused, without blanks around it. -/
def moveReason (f : Fault) : String :=
  let reason :=
    match f with
    | .system _ reason _ => Text.trim reason
    | .badValue text => Text.trim text
    | _ => ""
  if reason = "" then defaultMoveReason else reason

/-- Moves the machine by `enter`, and then the session. -/
def Shell.move (enter : Mover) (directory : Path) (s : Shell) : Except Fault Shell :=
  match enter s.machine directory with
  | .error f => .error f
  | .ok m =>
    .ok ({ s with machine := m, session := { s.session with directory := directory } }.note
      (.moved directory))

namespace Job

/-- Moves to the directory that the arguments ask for, entering it by `enter`. -/
def changeDirectory (enter : Mover) (arguments : List String) (j : Job) : Job × Option Fault :=
  let target := j.shell.session.target arguments
  let directory := j.shell.session.resolve target
  match j.shell.move enter directory with
  | .ok s => { j with shell := s }.writeLine ("Changed directory to: " ++ directory.text)
  | .error f =>
    if f.isRefusal then
      (j.onShell (·.note (.moveRefused target (moveReason f)))).writeLine
        ("cd: " ++ target ++ ": " ++ moveReason f)
    else (j, some f)

def printDirectory (j : Job) : Job × Option Fault := j.writeLine j.shell.session.directory.text

/-! ## 2. By name -/

def runBuiltin (b : Builtin) (arguments : List String) (j : Job) : Job × Option Fault :=
  match b with
  | .changeDirectory => j.changeDirectory Machine.chdir arguments
  | .printDirectory => j.printDirectory

end Job

end LineShell
