import LineShell.Log.Emphasis
import LineShell.Text.Wrap

/-!
# Log records

One record of the log, and the two forms it is written in.

* `Level` orders the records by their weight;
* `Layout.plain` writes a record on one line: time, level, origin, message, with bars between them;
* `Layout.table` writes it as a row of a table: the level, and the message wrapped in the columns
  that are left, of which there is at least one.
-/

namespace LineShell

/-! ## 1. Levels -/

inductive Level where
  | trace
  | debug
  | info
  | success
  | warning
  | error
  | critical
  deriving DecidableEq, Repr

namespace Level

/-- The levels from the lightest to the heaviest. -/
def all : List Level := [.trace, .debug, .info, .success, .warning, .error, .critical]

def name : Level → String
  | .trace => "TRACE"
  | .debug => "DEBUG"
  | .info => "INFO"
  | .success => "SUCCESS"
  | .warning => "WARNING"
  | .error => "ERROR"
  | .critical => "CRITICAL"

def weight : Level → Nat
  | .trace => 5
  | .debug => 10
  | .info => 20
  | .success => 25
  | .warning => 30
  | .error => 40
  | .critical => 50

def ofName? (s : String) : Option Level := all.find? (·.name == s)

end Level

/-! ## 2. Records -/

/-- A moment, to the millisecond. -/
structure Moment where
  year : Nat
  month : Nat
  day : Nat
  hour : Nat
  minute : Nat
  second : Nat
  millisecond : Nat
  deriving DecidableEq, Repr

/-- A number with zeros in front, to `width` digits. -/
def zeroFilled (width n : Nat) : String :=
  let digits := Nat.toDigits 10 n
  String.ofList (List.replicate (width - digits.length) '0' ++ digits)

def Moment.text (m : Moment) : String :=
  zeroFilled 4 m.year ++ "-" ++ zeroFilled 2 m.month ++ "-" ++ zeroFilled 2 m.day ++ " " ++
    zeroFilled 2 m.hour ++ ":" ++ zeroFilled 2 m.minute ++ ":" ++ zeroFilled 2 m.second ++ "." ++
    zeroFilled 3 m.millisecond

structure Origin where
  unit : String
  routine : String
  line : Nat
  deriving DecidableEq, Repr

structure Record where
  moment : Moment
  origin : Origin
  level : Level
  message : String
  /-- Where an error came from, on lines of its own; empty where there is nothing to trace. -/
  trace : String
  deriving DecidableEq, Repr

/-- The message of a record, and the trace behind it if there is one. -/
def Record.body (r : Record) : String :=
  if r.trace = "" then r.message else r.message ++ "\n" ++ r.trace

/-! ## 3. Layouts -/

/-- The form a record is written in: on one line, or as a row of a table so many columns wide. -/
inductive Layout where
  | plain
  | table (width : Nat)
  deriving DecidableEq, Repr

/-- The columns of the level in a row of a table, where there is room. -/
def levelWidth : Nat := 8

def levelColumns (width : Nat) : Nat := min levelWidth (width - 2)

def messageColumns (width : Nat) : Nat := max 1 (width - levelWidth - 1)

/-- The name of a level in `room` columns; dots stand for what does not fit. -/
def levelCell (room : Nat) (name : List Char) : List Char :=
  if name.length ≤ room then Text.padded room name
  else if room = 0 then []
  else name.take (room - 1) ++ ['…']

def Record.plainText (r : Record) : String :=
  r.moment.text ++ " | " ++ String.ofList (Text.padded 7 r.level.name.toList) ++ " | " ++
    r.origin.unit ++ ":" ++ r.origin.routine ++ ":" ++ toString r.origin.line ++ " | " ++
    r.body ++ "\n"

/-- The lines of a row of a table of `width` columns; the first line begins with `head`. -/
def rowLines (width : Nat) (head : List Char) : List (List Text.Glyph) → List Char
  | [] => []
  | line :: rest =>
    levelCell (levelColumns width) head ++ ' ' ::
      Text.filled (messageColumns width) line ++ '\n' :: rowLines width [] rest

/-- The controls that are left out of a table: bell, backspace, vertical tab, form feed, carriage
    return. -/
def isLeftOut (c : Char) : Bool := Text.inRanges [(7, 8), (11, 13)] c

/-- A character that ends a line of a message when the message is measured. -/
def isLineEnd (c : Char) : Bool :=
  Text.inRanges [(0xa, 0xd), (0x1c, 0x1e), (0x85, 0x85), (0x2028, 0x2029)] c

/-- No line of a message takes a column. -/
def isInvisible (message : List Char) : Bool :=
  (Text.piecesBy isLineEnd message).all fun line => Text.columns line == 0

/-- A record as a row of a table. A table of one column is blank, one without columns empty; one
    that lacks room for the level has no room for a message that takes no column. -/
def Record.tableText (width : Nat) (r : Record) : String :=
  let level := r.level.name.toList
  let message := r.body.toList.filter (!isLeftOut ·)
  if width = 0 then ""
  else if width = 1 then " \n"
  else if levelColumns width < levelWidth && isInvisible message then
    String.ofList (levelCell (levelColumns width) level ++ [' ', '\n'])
  else
    String.ofList
      (rowLines width level (Text.wrapped (messageColumns width) (Emphasis.emphasized message)))

def Record.text (r : Record) : Layout → String
  | .plain => r.plainText
  | .table width => r.tableText width

end LineShell
