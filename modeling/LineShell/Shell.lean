import LineShell.Command
import LineShell.Log.Logger
import LineShell.Session
import LineShell.Sink

/-!
# The shell and its jobs

`Shell` is everything a line can change: the machine, the session, the two streams of the process,
the log, and the programs started so far. `Job` is a shell at work on one line, together with the
sinks that the line has opened.

Every operation of a job answers the job it leaves and the fault it ended in, if any: what was done
before a fault stays done.
-/

namespace LineShell

/-! ## 1. The shell -/

/-- A program that was started: its command line, and the executable it was found as. -/
structure Launch where
  commandLine : List String
  executable : Path
  deriving DecidableEq

/-- How programs are run to their end. -/
abbrev Runner := Machine → List String → Path → Except Fault Completed

/-- How a directory is entered. -/
abbrev Mover := Machine → Path → Except Fault Machine

structure Shell where
  machine : Machine
  session : Session := {}
  searchPath : String := ""
  output : Bytes := []
  error : Bytes := []
  events : List Event := []
  launches : List Launch := []
  logger : Logger := {}
  /-- The time that records are given. -/
  moment : Moment := ⟨1970, 1, 1, 0, 0, 0, 0⟩
  /-- What the log shows of a fault behind the record of its line; left open. -/
  trace : Fault → String := fun _ => ""

namespace Shell

/-- Bytes on a stream of the process. -/
def put (c : Channel) (data : Bytes) (s : Shell) : Shell :=
  match c with
  | .output => { s with output := s.output ++ data }
  | .error => { s with error := s.error ++ data }

/-- An event is noted; the logger may write it to the error stream. -/
def note (e : Event) (s : Shell) : Shell :=
  { s with
    events := s.events ++ [e]
    error := s.error ++ Bytes.ofText (s.logger.emit (e.record s.moment)) }

def noteAll (es : List Event) (s : Shell) : Shell := es.foldl (fun s e => s.note e) s

def report (message : String) (s : Shell) : Shell := s.put .error (Bytes.ofLine message)

def withMachine (m : Machine) (s : Shell) : Shell := { s with machine := m }

def withFiles (files : Files) (s : Shell) : Shell :=
  { s with machine := { s.machine with files := files } }

def identify (s : Shell) (name : String) : Shell × Except Fault Identity :=
  let (events, answer) := s.machine.identify reservedWords s.searchPath name
  (s.noteAll events, answer)

def openSink (s : Shell) (c : Channel) (target : Option Target) :
    Except SinkRefusal (Shell × Sink) :=
  match s.machine.openSink c.label target with
  | .ok (m, sink) => .ok (s.withMachine m, sink)
  | .error r => .error r

/-- A line is given up because a sink could not be opened. -/
def refuse (line : String) (r : SinkRefusal) (s : Shell) : Shell :=
  (s.note (.sinkRefused line r.message)).report r.message

end Shell

/-! ## 2. Jobs -/

/-- A shell at work on one line, with its sinks. -/
structure Job where
  shell : Shell
  output : Sink := .stream .output
  error : Sink := .stream .error

namespace Job

def sink (j : Job) : Channel → Sink
  | .output => j.output
  | .error => j.error

def withSink (c : Channel) (s : Sink) (j : Job) : Job :=
  match c with
  | .output => { j with output := s }
  | .error => { j with error := s }

/-- The job with other files and another handle for a channel. -/
def withHandle (c : Channel) (name : String) (files : Files) (h : Handle) (j : Job) : Job :=
  { j with shell := j.shell.withFiles files }.withSink c (.file name h)

def onShell (f : Shell → Shell) (j : Job) : Job := { j with shell := f j.shell }

/-- Writes to the sink of a channel; no bytes are no write. -/
def write (c : Channel) (data : Bytes) (j : Job) : Job × Option Fault :=
  if data.isEmpty then (j, none)
  else
    match j.sink c with
    | .stream s => (j.onShell (·.put s data), none)
    | .file name h =>
      match j.shell.machine.files.write h data with
      | .ok (files, h) => (j.withHandle c name files h, none)
      | .error e => (j, some e.fault)

def writeLine (text : String) (j : Job) : Job × Option Fault := j.write .output (Bytes.ofLine text)

/-- Sends what waits in the sink of a channel. -/
def flush (c : Channel) (j : Job) : Job × Option Fault :=
  match j.sink c with
  | .stream _ => (j, none)
  | .file name h =>
    match j.shell.machine.files.flush h with
    | .ok (files, h) => (j.withHandle c name files h, none)
    | .error e => (j, some e.fault)

/-- Closes the sink of a channel: what waits is sent, and the file is closed whatever becomes of
    that. The streams of the process stay open. -/
def close (c : Channel) (j : Job) : Job × Option Fault :=
  match j.sink c with
  | .stream _ => (j, none)
  | .file _ h =>
    let (j, fault) := j.flush c
    (j.onShell fun s => s.withMachine (s.machine.use (.closed h.object)), fault)

/-- One thing after another; the second is left undone when the first ends in a fault. -/
def andThen (r : Job × Option Fault) (f : Job → Job × Option Fault) : Job × Option Fault :=
  match r with
  | (j, none) => f j
  | (j, some fault) => (j, some fault)

/-- One thing after another, whatever the first ends in; a later fault takes the place of an
    earlier one. -/
def andAlways (r : Job × Option Fault) (f : Job → Job × Option Fault) : Job × Option Fault :=
  let (j, later) := f r.1
  (j, later.or r.2)

/-- The end of a job, whatever it ended in: the output is flushed and then the error channel, and
    both sinks are closed in the opposite order. -/
def finish (r : Job × Option Fault) : Shell × Option Fault :=
  let flushed := andAlways r fun j => andThen (j.flush .output) (flush .error)
  let closed := andAlways (andAlways flushed (close .error)) (close .output)
  (closed.1.shell, closed.2)

end Job

end LineShell
