import LineShell.Builtin

/-!
# Executing a line

From a line to its effects.

1. The line is made a plan; a line without a command does nothing.
2. The sinks are opened, the output first. A sink that cannot be opened ends the line with a
   message, before anybody asks what the command is; one that is open already is closed again.
3. The command name is identified, with the files as the opened sinks have left them.
4. The command is carried out. What a program has written goes to the sinks; that a name is unknown
   or a program cannot be run is reported on the error stream of the process, whatever the line
   redirects.
5. The sinks are flushed and closed, however the command ended.
-/

namespace LineShell

namespace Job

/-! ## 1. Carrying out a command -/

/-- Runs a program; its bytes go to the sinks when it has ended. -/
def runProgram (run : Runner) (plan : Plan) (path : Path) (j : Job) : Job × Option Fault :=
  let commandLine := plan.command :: plan.arguments
  let j := j.onShell fun s => { s with launches := s.launches ++ [⟨commandLine, path⟩] }
  match run j.shell.machine commandLine path with
  | .ok done =>
    let j := j.onShell (·.note (.ended plan.command done.status))
    andThen (j.write .output done.output) (write .error done.error)
  | .error f =>
    if f.isLaunchFailure then
      (j.onShell fun s =>
        (s.note (.launchRefused path f)).report (path.displayName ++ ": " ++ f.reason), none)
    else (j, some f)

def perform (run : Runner) (plan : Plan) (identity : Identity) (j : Job) : Job × Option Fault :=
  match identity with
  | .reserved _ message => j.writeLine message
  | .builtin b => j.runBuiltin b plan.arguments
  | .external path => j.runProgram run plan path
  | .notFound name => (j.onShell (·.report (name ++ ": command not found")), none)

def work (run : Runner) (plan : Plan) (j : Job) : Job × Option Fault :=
  let (shell, answer) := j.shell.identify plan.command
  let j := { j with shell := shell }
  match answer with
  | .error f => (j, some f)
  | .ok identity =>
    (j.onShell (·.note (.resolved plan.command identity.kind j.output.name j.error.name))).perform
      run plan identity

end Job

/-! ## 2. A line -/

/-- How lines are carried out: the shell that a line leaves, and the fault it ends in, if any. -/
abbrev Dispatcher := String → Shell → Shell × Option Fault

namespace Shell

/-- Executes a plan; `line` is only named in the log. -/
def executePlan (run : Runner) (line : String) (plan : Plan) (s : Shell) : Shell × Option Fault :=
  match s.openSink .output plan.output with
  | .error r => (s.refuse line r, none)
  | .ok (s, output) =>
    match s.openSink .error plan.error with
    | .error r =>
      let (j, fault) := (Job.mk (s.refuse line r) output (.stream .error)).close .output
      (j.shell, fault)
    | .ok (s, error) => Job.finish ((Job.mk s output error).work run plan)

def execute (run : Runner) (line : String) (s : Shell) : Shell × Option Fault :=
  match Plan.ofLine? line with
  | none => (s, none)
  | some plan => s.executePlan run line plan

def programName : String := "tinysh"

/-- Hands a line to a dispatcher; a fault that nothing has handled is reported and forgotten. -/
def attempt (dispatch : Dispatcher) (line : String) (s : Shell) : Shell :=
  match dispatch line s with
  | (s, none) => s
  | (s, some f) => (s.note (.lineFailed line (s.trace f))).report (programName ++ ": " ++ f.message)

def runLine (run : Runner) (line : String) (s : Shell) : Shell := s.attempt (execute run) line

end Shell

end LineShell
