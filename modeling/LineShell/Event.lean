import LineShell.Fault
import LineShell.Log.Record
import LineShell.Path

/-!
# Events

What the shell notes about its own doing. An event is what happened; `Event.text` words it for the
log, `Event.origin` says where it is noted, and `Event.level` is its weight: only a line that failed
is an error, all else is of interest to somebody looking for one.
-/

namespace LineShell

/-- Something the shell notes. -/
inductive Event where
  | started (directory : Path)
  | moved (directory : Path)
  | moveRefused (target reason : String)
  /-- A directory of the search path could not be listed. -/
  | skipped (directory : String) (fault : Fault)
  | sinkRefused (line message : String)
  /-- It is known what a command name stands for. -/
  | resolved (command kind output error : String)
  | launchRefused (path : Path) (fault : Fault)
  | ended (command : String) (status : Int)
  /-- A line ended in a fault that nothing handled; the trace says where that came from. -/
  | lineFailed (line trace : String)
  | stopped
  deriving DecidableEq

namespace Event

def level : Event → Level
  | .lineFailed .. => .error
  | _ => .debug

def text : Event → String
  | .started d => "session.start cwd=" ++ d.text
  | .moved d => "session.cwd cwd=" ++ d.text
  | .moveRefused target reason => "builtin.cd.error target=" ++ target ++ " reason=" ++ reason
  | .skipped d f => "path.skip directory=" ++ d ++ " error=" ++ f.message
  | .sinkRefused line message => "shell.sink.error line=" ++ line ++ " error=" ++ message
  | .resolved command kind output error =>
    "shell.dispatch name=" ++ command ++ " kind=" ++ kind ++ " out=" ++ output ++ " err=" ++ error
  | .launchRefused path f => "shell.launch.error path=" ++ path.text ++ " error=" ++ f.message
  | .ended command status => "shell.exit name=" ++ command ++ " code=" ++ toString status
  | .lineFailed line _ => "shell.line.error line=" ++ line
  | .stopped => "shell.stop"

/-- The trace that goes with an event, empty for all that are no errors. -/
def trace : Event → String
  | .lineFailed _ trace => trace
  | _ => ""

def origin : Event → Origin
  | .started _ => ⟨"tinysh.runtime.session", "start", 37⟩
  | .moved _ => ⟨"tinysh.runtime.session", "change_directory", 68⟩
  | .moveRefused .. => ⟨"tinysh.core.builtins", "change_directory", 45⟩
  | .skipped .. => ⟨"tinysh.core.path_resolver", "resolve", 47⟩
  | .sinkRefused .. => ⟨"tinysh.core.dispatcher", "execute", 110⟩
  | .resolved .. => ⟨"tinysh.core.dispatcher", "execute", 116⟩
  | .launchRefused .. => ⟨"tinysh.core.dispatcher", "_run_external", 146⟩
  | .ended .. => ⟨"tinysh.core.dispatcher", "_run_external", 151⟩
  | .lineFailed .. => ⟨"tinysh.cli.live", "run_line", 33⟩
  | .stopped => ⟨"tinysh.cli.live", "run_shell", 18⟩

def record (moment : Moment) (e : Event) : Record := ⟨moment, e.origin, e.level, e.text, e.trace⟩

end Event

end LineShell
