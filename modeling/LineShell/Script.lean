import LineShell.Bytes
import LineShell.Word

/-!
# Scripts

What the shell of the system does with a script, as far as the scripts here go: every line is one
command.

* `:` and `true` do nothing, and so does a comment;
* `printf` and `echo` write to the output, `pwd` and `/bin/pwd` the directory the script runs in,
  and the loop over `"$@"` each argument between brackets; between `{` and `} >&2` all this goes to
  the error channel;
* `exit` ends the script; so does its last line, with the status of the last command;
* any other command is unknown, which is said on the error channel;
* `Options` tell the shell to end a script at the first failure, to show what it reads or what it
  carries out, or to carry out nothing.

`Script.run` is the whole: what the process leaves behind when it has ended.
-/

namespace LineShell

/-- What a process leaves behind when it has ended. -/
structure Completed where
  output : Bytes := []
  error : Bytes := []
  status : Int := 0
  deriving DecidableEq, Repr

namespace Script

/-! ## 1. Commands -/

inductive Command where
  | nothing
  | succeed
  | print (data : Bytes)
  | showArguments
  | showDirectory
  | findDirectory
  | openGroup
  | closeGroup
  | exit (status : Option String)
  | unknown (name : String)
  deriving DecidableEq, Repr

/-- A command together with the line and the words it is written in. -/
structure Line where
  text : Bytes
  words : List String
  command : Command
  deriving DecidableEq, Repr

def octalDigit? (c : Char) : Option Nat :=
  if '0' ≤ c ∧ c ≤ '7' then some (c.toNat - '0'.toNat) else none

def octalByte? (x y z : Char) : Option UInt8 := do
  return UInt8.ofNat ((← octalDigit? x) * 64 + (← octalDigit? y) * 8 + (← octalDigit? z))

/-- The control that a letter after a backslash writes. -/
def controlOf? (c : Char) : Option UInt8 :=
  match c with
  | 'n' => some 0x0a
  | 't' => some 0x09
  | 'r' => some 0x0d
  | _ => none

/-- The byte that a text after a backslash stands for, and the number of its characters. -/
def escaped? : List Char → Option (UInt8 × Nat)
  | [] => none
  | c :: cs =>
    match controlOf? c, cs with
    | some b, _ => some (b, 1)
    | none, y :: z :: _ => (octalByte? c y z).map fun b => (b, 3)
    | none, _ => none

/-- The bytes that `printf` writes for a format, after those in `done` (last byte first): a
    backslash writes the byte that stands after it as three octal digits or as a letter, any other
    character itself. The first `skipped` characters have been read already. -/
def formattedFrom (done : Bytes) (skipped : Nat) : List Char → Bytes
  | [] => done.reverse
  | c :: cs =>
    match skipped with
    | skipped + 1 => formattedFrom done skipped cs
    | 0 =>
      match if c = '\\' then escaped? cs else none with
      | some (b, n) => formattedFrom (b :: done) n cs
      | none => formattedFrom ((String.utf8EncodeChar c).reverse ++ done) 0 cs

def formatted (format : String) : Bytes := formattedFrom [] 0 format.toList

def argumentsLine : String := "for a in \"$@\"; do printf '[%s]\\n' \"$a\"; done"

def Command.ofWords : List String → Command
  | [] => .nothing
  | [":"] => .succeed
  | ["true"] => .succeed
  | ["\x7b"] => .openGroup
  | ["\x7d", ">&2"] => .closeGroup
  | ["printf", format] => .print (formatted format)
  | "echo" :: words => .print (Bytes.ofLine (" ".intercalate words))
  | ["pwd"] => .showDirectory
  | ["pwd", "-P"] => .showDirectory
  | ["/bin/pwd"] => .findDirectory
  | ["/bin/pwd", "-P"] => .findDirectory
  | ["exit"] => .exit none
  | "exit" :: status :: _ => .exit (some status)
  | name :: _ => if name.toList.head? == some '#' then .nothing else .unknown name

/-- A line of a script, with its end; one that is no text says nothing. -/
def Line.ofBytes (text : Bytes) : Line :=
  match String.fromUTF8? ⟨(text.filter (· != 0x0a)).toArray⟩ with
  | none => ⟨text, [], .nothing⟩
  | some line =>
    if line = argumentsLine then ⟨text, [], .showArguments⟩
    else ⟨text, Word.split line, .ofWords (Word.split line)⟩

/-- The lines of a script; `current` is the one begun so far (last byte first). -/
def linesFrom (current : Bytes) : Bytes → List Line
  | [] => if current.isEmpty then [] else [.ofBytes current.reverse]
  | b :: bs =>
    if b = 0x0a then .ofBytes (b :: current).reverse :: linesFrom [] bs
    else linesFrom (b :: current) bs

/-! ## 2. Options -/

structure Options where
  stopsAtFailure : Bool := false
  /-- It is read only, and nothing is carried out. -/
  readsOnly : Bool := false
  /-- The input of the shell, which is empty, is run in its place. -/
  runsInput : Bool := false
  /-- What is carried out is said on the error channel. -/
  traces : Bool := false
  /-- What is read is shown there. -/
  shows : Bool := false
  deriving DecidableEq, Repr

namespace Options

/-- The letters of the options that change nothing here. -/
def otherLetters : List Char := "fIimVECabuplc".toList

/-- The options that letters turn on or off. The answer for a letter that stands for no option is
    that letter. -/
def turned (on : Bool) (o : Options) : List Char → Except Char Options
  | [] => .ok o
  | c :: cs =>
    if c = 'e' then turned on { o with stopsAtFailure := on } cs
    else if c = 'n' then turned on { o with readsOnly := on } cs
    else if c = 's' then turned on { o with runsInput := on } cs
    else if c = 'x' then turned on { o with traces := on } cs
    else if c = 'v' then turned on { o with shows := on } cs
    else if otherLetters.contains c then turned on o cs
    else .error c

def ofWord? (word : String) : Option (Except Char Options) :=
  match word.toList with
  | ['-', '-'] => some (.ok {})
  | '-' :: letters => some (turned true {} letters)
  | '+' :: letters => some (turned false {} letters)
  | _ => none

end Options

/-! ## 3. Running -/

/-- Where a script runs: the path it was opened by, its arguments, the directory it runs in, if that
    is still there, and how it is to be run. -/
structure Context where
  path : String
  arguments : List String
  directory : Option String
  options : Options := {}

/-- A script between two lines: what has been written, the status of the last command, and whether
    the output goes to the error channel. -/
structure Progress where
  output : Bytes := []
  error : Bytes := []
  status : Nat := 0
  diverted : Bool := false

namespace Progress

def complain (data : Bytes) (p : Progress) : Progress := { p with error := p.error ++ data }

/-- Bytes on the output, or where it goes instead. -/
def put (data : Bytes) (p : Progress) : Progress :=
  if p.diverted then p.complain data else { p with output := p.output ++ data }

def ended (status : Nat) (p : Progress) : Progress := { p with status := status }

end Progress

def lostDirectory : String := "sh: 0: getcwd() failed: No such file or directory"

def unknownDirectory : String :=
  "/bin/pwd: couldn't find directory entry in ‘..’ with matching i-node"

def Context.complaint (c : Context) (number : Nat) (text : String) : Bytes :=
  Bytes.ofLine (c.path ++ ": " ++ toString number ++ ": " ++ text)

/-- Carries out the command of line `number`, unless it ends the script. -/
def Context.perform (c : Context) (number : Nat) (command : Command) (p : Progress) : Progress :=
  match command with
  | .nothing => p
  | .succeed => p.ended 0
  | .print data => (p.put data).ended 0
  | .showArguments => (p.put (c.arguments.flatMap fun a => Bytes.ofLine ("[" ++ a ++ "]"))).ended 0
  | .showDirectory =>
    match c.directory with
    | some d => (p.put (Bytes.ofLine d)).ended 0
    | none =>
      ((p.complain (c.complaint number "pwd: getcwd() failed: No such file or directory")).put
        (Bytes.ofLine "")).ended 0
  | .findDirectory =>
    match c.directory with
    | some d => (p.put (Bytes.ofLine d)).ended 0
    | none => (p.complain (Bytes.ofLine unknownDirectory)).ended 1
  | .openGroup => { p with diverted := true }
  | .closeGroup => { p with diverted := false }
  | .exit _ => p
  | .unknown name => (p.complain (c.complaint number (name ++ ": not found"))).ended 127

/-- The status that a word names: a number that fits into 32 bits with its sign, of which the lowest
    eight bits count. -/
def exitStatus? (word : String) : Option Nat :=
  match word.toNat? with
  | none => none
  | some n => if word.toList.all Char.isDigit && n < 2147483648 then some (n % 256) else none

def Progress.completed (p : Progress) : Completed := ⟨p.output, p.error, p.status⟩

def Context.exit (c : Context) (number : Nat) (status : Option String) (p : Progress) : Completed :=
  match status with
  | none => p.completed
  | some word =>
    match exitStatus? word with
    | some n => (p.ended n).completed
    | none =>
      ((p.complain (c.complaint number ("exit: Illegal number: " ++ word))).ended 2).completed

def Context.traceOf (c : Context) (line : Line) : List (List String) :=
  match line.command with
  | .nothing => []
  | .openGroup => []
  | .closeGroup => []
  | .showArguments => c.arguments.map fun a => ["printf", "[%s]\\n", a]
  | _ => [line.words]

/-- Says what is carried out for a line, if that is to be said. -/
def Context.trace (c : Context) (line : Line) (p : Progress) : Progress :=
  if c.options.traces then
    p.complain ((c.traceOf line).flatMap fun words => Bytes.ofLine ("+ " ++ " ".intercalate words))
  else p

/-- What is read before the first line is carried out: that line, and all of a group that it
    begins. -/
def reading : List Line → Bytes
  | [] => []
  | line :: rest =>
    if line.command = .openGroup then line.text ++ groupText rest else line.text
where
  /-- The lines up to the end of a group. -/
  groupText : List Line → Bytes
    | [] => []
    | line :: rest =>
      if line.command = .closeGroup then line.text else line.text ++ groupText rest

/-- Shows what is read for the first line, if that is to be shown; a group has been read before. -/
def Context.read (c : Context) (lines : List Line) (p : Progress) : Progress :=
  if c.options.shows && !p.diverted then p.complain (reading lines) else p

def Context.runFrom (c : Context) (number : Nat) (p : Progress) : List Line → Completed
  | [] => p.completed
  | line :: rest =>
    let p := c.trace line (c.read (line :: rest) p)
    match line.command with
    | .exit status => c.exit number status p
    | command =>
      let p := c.perform number command p
      if c.options.stopsAtFailure && p.status != 0 then p.completed
      else c.runFrom (number + 1) p rest

/-- What is said before anything else. -/
def greeting (directory : Option String) : Bytes :=
  if directory.isNone then Bytes.ofLine lostDirectory else []

/-- Runs a script; the zeros in it are passed over. -/
def run (content : Bytes) (c : Context) : Completed :=
  let lines := if c.options.runsInput then [] else linesFrom [] (content.filter (· != 0))
  let p := ({} : Progress).complain (greeting c.directory)
  if c.options.readsOnly then
    (if c.options.shows then p.complain (lines.flatMap (·.text)) else p).completed
  else c.runFrom 1 p lines

end Script

end LineShell
