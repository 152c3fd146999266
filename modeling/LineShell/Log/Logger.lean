import LineShell.Fault
import LineShell.Log.Record
import LineShell.Text.Upper

/-!
# The logger

Which records are written, and in which form. The logger remembers the configuration it was last
given; asked for the same one again it does nothing. Any other configuration first takes the old
handlers away, and then installs one of its own: a level that does not exist leaves none, and so
does a table on a screen of no size, while the remembered configuration stays what it was.
-/

namespace LineShell

/-- Writes the records from a level upwards in one layout. -/
structure Handler where
  threshold : Level
  layout : Layout
  deriving DecidableEq, Repr

def Handler.accepts (h : Handler) (level : Level) : Bool :=
  decide (h.threshold.weight ≤ level.weight)

structure LogConfiguration where
  profile : String
  level : String
  deriving DecidableEq, Repr

structure Logger where
  configured : Option LogConfiguration := none
  handlers : List Handler := []
  deriving DecidableEq, Repr

/-- The layout of a profile on a screen of so many columns, if that is known. -/
def layoutOf (columns : Except Fault Nat) (profile : String) : Except Fault Layout :=
  if profile = "rich" then columns.map .table else .ok .plain

namespace Logger

def defaultLevel : String := "WARNING"

def defaultProfile : String := "default"

def unknownLevel (level : String) : Fault := .badValue ("Level '" ++ level ++ "' does not exist")

def handler (columns : Except Fault Nat) (wanted : LogConfiguration) : Except Fault Handler := do
  let layout ← layoutOf columns wanted.profile
  match Level.ofName? wanted.level with
  | some threshold => return ⟨threshold, layout⟩
  | none => throw (unknownLevel wanted.level)

/-- The logger under a configuration, on a screen of so many columns; the level may be written in
    either case. -/
def configure (level profile : String) (columns : Except Fault Nat) (l : Logger) :
    Logger × Option Fault :=
  let wanted : LogConfiguration := ⟨profile, Text.upper level⟩
  if l.configured = some wanted then (l, none)
  else
    match handler columns wanted with
    | .ok h => (⟨some wanted, [h]⟩, none)
    | .error f => ({ l with handlers := [] }, some f)

def emit (l : Logger) (r : Record) : String :=
  String.join ((l.handlers.filter (·.accepts r.level)).map fun h => r.text h.layout)

/-- What the logger writes for a message at the level of this name. Without handlers nobody asks
    whether there is such a level. -/
def log (l : Logger) (moment : Moment) (origin : Origin) (level message : String) :
    Except Fault String :=
  if l.handlers.isEmpty then .ok ""
  else
    match Level.ofName? level with
    | some level => .ok (l.emit ⟨moment, origin, level, message, ""⟩)
    | none => .error (unknownLevel level)

end Logger

end LineShell
