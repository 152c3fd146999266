import LineShell.Files.Handle
import LineShell.Image
import LineShell.Script

/-!
# The machine

What the shell runs on: the file tree, the working directory, the environment of the process, and
the handles it has opened and closed.

* `Machine.chdir` enters a directory, `Machine.holds` asks a directory for an entry;
* `Machine.launch` runs an executable to its end. An executable written with a slash is the file
  it names; one without is looked for in the directories of the `PATH` variable, whatever the
  working directory holds;
* a script is run by the file that its first line names, which may be a script as well; a file that
  is being written to is not run.
-/

namespace LineShell

/-! ## 1. The state -/

/-- The variables of a process, in the order in which they were set; the last one of a name
    counts. -/
abbrev Environment := List (String × String)

def Environment.get? (env : Environment) (name : String) : Option String := env.reverse.lookup name

structure Machine where
  files : Files := {}
  place : Place := .root
  environment : Environment := []
  uses : List FileUse := []

namespace Machine

/-- The working directory as an absolute path; none when it has been removed. -/
def workingDirectory? (m : Machine) : Option String :=
  if m.place.lost = 0 then some m.place.base.text else none

def home (m : Machine) : Path := ((m.environment.get? "HOME").map Path.ofHome).getD .root

/-- The text cannot be handed to the system. -/
def hasNul (s : String) : Bool := s.toList.contains '\x00'

/-! ## 2. Directories -/

def chdir (m : Machine) (path : Path) : Except Fault Machine :=
  if hasNul path.text then .error .nulByte
  else
    match m.files.findDirectory m.place path.text with
    | .ok p => .ok { m with place := p }
    | .error e => .error (e.fault path.text)

/-- The directory at a place has an entry of this name. -/
def holdsAt (m : Machine) (p : Place) (name : String) : Bool :=
  match Name.ofChars? name.toList with
  | none => false
  | some n => p.lost = 0 && (m.files.get? (n :: p.base)).isSome

/-- The directory that a text names has an entry of this name, if it can be listed. -/
def holds (m : Machine) (directory name : String) : Except Fault Bool :=
  if hasNul directory then .error .nulByte
  else
    match m.files.findDirectory m.place directory with
    | .ok p => .ok (m.holdsAt p name)
    | .error e => .error (e.fault directory)

/-! ## 3. Processes -/

def isHeld (m : Machine) (l : Location) : Bool :=
  decide (m.uses.count (.closed (.file l)) < m.uses.count (.opened (.file l)))

/-- The file that a path names, opened to be executed; the empty path names the working directory
    here. A file that a handle is open on is not executed. -/
def openExecutable (m : Machine) (path : String) : Except Errno File :=
  if path = "" then .error .permission
  else
    match m.files.findPlace m.place path with
    | .error e => .error e
    | .ok p =>
      match m.files.at? p with
      | some (.file f) =>
        if !f.executable then .error .permission
        else if m.isHeld p.base then .error .textBusy
        else .ok f
      | _ => .error .permission

/-- The end of the shell of the system, run by the name `name`, that never comes to a script. -/
def shellRefusal (m : Machine) (name text : String) : Completed :=
  ⟨[], Script.greeting m.workingDirectory? ++ Bytes.ofLine (name ++ ": 0: " ++ text), 2⟩

/-- Runs the shell of the system, by the name `name`, on a script and its arguments. -/
def runScript (m : Machine) (name : String) (options : Script.Options) :
    List String → Completed
  | [] => {}
  | path :: arguments =>
    match (m.files.findPlace m.place path).toOption.bind m.files.at? with
    | some (.file f) => Script.run f.content ⟨path, arguments, m.workingDirectory?, options⟩
    | _ => m.shellRefusal name ("cannot open " ++ path ++ ": No such file")

/-- What the shell of the system says about a letter that stands for no option; after an `o` the
    name of an option follows, and what follows here is none. -/
def optionRefusal (c : Char) (arguments : List String) : String :=
  " ".intercalate (("Illegal option -" ++ c.toString) :: if c = 'o' then arguments.take 1 else [])

/-- Runs the shell of the system by the name `name`: its options come first, if there are any, then
    the script and its arguments. -/
def runShell (m : Machine) (name : String) (arguments : List String) : Completed :=
  match arguments.head?.bind Script.Options.ofWord? with
  | none => m.runScript name {} arguments
  | some (.ok options) => m.runScript name options arguments.tail
  | some (.error c) => m.shellRefusal name (optionRefusal c arguments.tail)

/-- The text that bytes are; the empty one for bytes that are none. -/
def textOf (data : Bytes) : String := (String.fromUTF8? ⟨data.toArray⟩).getD ""

/-- Executes the file that a path names, under a name and with arguments. A script runs another
    file in its place, with the argument that the script has for it and the path of the script in
    front of the arguments; at most `scripts` files are left to be looked into. -/
def execute (m : Machine) (scripts : Nat) (path name : String) (arguments : List String) :
    Except Errno Completed :=
  match m.openExecutable path with
  | .error e => .error e
  | .ok f =>
    match scripts with
    | 0 => .error .tooManyLinks
    | scripts + 1 =>
      match Image.ofContent? f.content with
      | none => .error .execFormat
      | some .shell => .ok (m.runShell name arguments)
      | some (.script interpreter argument) =>
        let interpreter := textOf interpreter
        m.execute scripts interpreter interpreter
          ((argument.map textOf).toList ++ path :: arguments)

/-- The files that one execution looks into. -/
def scriptLimit : Nat := 6

/-- Executes the first of several paths that can be executed. When none can, the first refusal for
    another reason than a missing file counts, or else the last one. -/
def executeFirst (m : Machine) (name : String) (arguments : List String) :
    Option Errno → Errno → List String → Except Errno Completed
  | kept, last, [] => .error (kept.getD last)
  | kept, _, path :: rest =>
    match m.execute scriptLimit path name arguments with
    | .ok done => .ok done
    | .error e =>
      let kept := if e = .noEntry || e = .notDirectory then kept else kept.or (some e)
      m.executeFirst name arguments kept e rest

def executableDirectories (m : Machine) : List String :=
  let value := (m.environment.get? "PATH").getD "/bin:/usr/bin"
  (Text.pieces ':' value.toList).map String.ofList

/-- The name below a directory, written as a path. -/
def below (directory name : String) : String :=
  if directory = "" || directory.toList.getLast? == some '/' then directory ++ name
  else directory ++ "/" ++ name

/-- The paths that the text of an executable stands for. -/
def candidates (m : Machine) (executable : String) : List String :=
  if executable.toList.contains '/' then [executable]
  else m.executableDirectories.map (below · executable)

/-- Runs an executable with a command line (the command name first) to its end. -/
def launch (m : Machine) (commandLine : List String) (executable : Path) :
    Except Fault Completed :=
  if (executable.text :: commandLine).any hasNul then .error .nulByte
  else
    match m.executeFirst (commandLine.headD "") commandLine.tail none .noEntry
        (m.candidates executable.text) with
    | .ok done => .ok done
    | .error e => .error (e.fault executable.text)

end Machine

end LineShell
