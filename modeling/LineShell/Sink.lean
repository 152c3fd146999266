import LineShell.Files.Handle
import LineShell.Machine
import LineShell.Plan

/-!
# Sinks

Where a command's bytes go: one of the streams of the shell's own process, or an open file. A file
that a line redirects to is opened before the command is known; when it cannot be opened, the line
is given up with a message that names the file as it was typed.
-/

namespace LineShell

/-! ## 1. Channels by name -/

def Channel.label : Channel → String
  | .output => "output"
  | .error => "error"

/-- The channel of a label: the output by its own name, the error channel by any other. -/
def Channel.ofLabel (label : String) : Channel := if label = "output" then .output else .error

def Channel.streamName : Channel → String
  | .output => "<stdout>"
  | .error => "<stderr>"

/-! ## 2. Sinks -/

inductive Sink where
  | stream (c : Channel)
  | file (name : String) (h : Handle)
  deriving DecidableEq

def Sink.name : Sink → String
  | .stream c => c.streamName
  | .file name _ => name

/-- A redirection that could not be opened. -/
structure SinkRefusal where
  label : String
  target : Target
  fault : Fault
  deriving DecidableEq

def SinkRefusal.message (r : SinkRefusal) : String :=
  "Failed to " ++ (if r.target.append then "open " else "create ") ++ r.label ++ " file " ++
    r.target.path ++ ": " ++ r.fault.reason

namespace Machine

/-- The machine after something was done with an open file. -/
def use (u : FileUse) (m : Machine) : Machine := { m with uses := m.uses ++ [u] }

def openFile (m : Machine) (t : Target) : Except Fault (Machine × Handle) :=
  if hasNul t.path then .error .nulByte
  else
    match m.files.openFile m.place t.path t.append with
    | .ok (files, h) => .ok ({ m with files := files }.use (.opened h.object), h)
    | .error e => .error (e.fault t.path)

/-- Opens the sink of a channel: the stream itself, or the file it is redirected to. -/
def openSink (m : Machine) (label : String) :
    Option Target → Except SinkRefusal (Machine × Sink)
  | none => .ok (m, .stream (.ofLabel label))
  | some t =>
    match m.openFile t with
    | .ok (m, h) => .ok (m, .file t.path h)
    | .error f => .error ⟨label, t, f⟩

end Machine

end LineShell
