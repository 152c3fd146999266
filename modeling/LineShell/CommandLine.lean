import LineShell.Log.Screen
import LineShell.Loop
import LineShell.Settings.Basic

/-!
# The command line

How the shell is started from outside.

* `shell`, or no command at all, reads lines from the input until it ends; `run LINE` runs one line;
* the options of a command may stand before and after its argument, until `--`; the last one of a
  kind counts; a long option may have its value after an equals sign, a short one right behind it;
* a command line of any other form is refused before anything is done (`exit` 2); what is said about
  it, or about the commands when that is asked for, is laid out on the screen, and fails on a screen
  of no size (`exit` 1);
* lines of the env file that cannot be read are reported first;
* a start directory that cannot be entered ends the shell with a message (`exit` 1), and so does,
  without one, a fault that nothing handles.
-/

namespace LineShell

/-! ## 1. Invocations -/

/-- What the command line asks for. -/
inductive Invocation where
  | shell (startDirectory prompt : Option String)
  | run (line : String) (startDirectory : Option String)
  deriving DecidableEq, Repr

inductive UsageError where
  | unknownCommand (name : String)
  | unknownOption (text : String)
  | missingValue (option : String)
  | unexpectedValue (option : String)
  | missingArgument
  | unexpectedArgument (text : String)
  /-- The value of an option cannot be handed to the system. -/
  | badValue
  /-- Only the description of the command is asked for. -/
  | help
  deriving DecidableEq, Repr

inductive CommandOption where
  | startDirectory
  | prompt
  | help
  deriving DecidableEq, Repr

namespace CommandLine

/-- What has been read of a command line. -/
structure Words where
  startDirectory : Option String := none
  prompt : Option String := none
  help : Bool := false
  arguments : List String := []
  deriving DecidableEq, Repr

def Words.give (o : CommandOption) (value : String) (w : Words) : Words :=
  match o with
  | .startDirectory => { w with startDirectory := some value }
  | .prompt => { w with prompt := some value }
  | .help => { w with help := true }

def takesValue : CommandOption → Bool
  | .help => false
  | _ => true

/-- What a word is at its place in the command line. -/
inductive Reading where
  | argument
  | terminator
  | option (o : CommandOption)
  | withValue (o : CommandOption) (value : String)
  | refused (e : UsageError)

def long? (options : List CommandOption) (name : String) : Option CommandOption :=
  options.find? fun o =>
    name == match o with
      | .startDirectory => "--start-dir"
      | .prompt => "--prompt"
      | .help => "--help"

def short? (options : List CommandOption) (letter : Char) : Option CommandOption :=
  options.find? fun o => o == .startDirectory && letter == 'C'

/-- What a word is, given the options of the command. -/
def read (options : List CommandOption) (word : String) : Reading :=
  match word.toList with
  | ['-', '-'] => .terminator
  | '-' :: '-' :: rest =>
    let name := String.ofList ('-' :: '-' :: rest.takeWhile (· != '='))
    match long? options name, rest.dropWhile (· != '=') with
    | none, _ => .refused (.unknownOption word)
    | some o, [] => .option o
    | some o, _ :: value =>
      if takesValue o then .withValue o (String.ofList value) else .refused (.unexpectedValue name)
  | ['-'] => .argument
  | '-' :: letter :: value =>
    match short? options letter with
    | none => .refused (.unknownOption word)
    | some o => if value.isEmpty then .option o else .withValue o (String.ofList value)
  | _ => .argument

/-- Reads the words of a command. -/
def readWords (options : List CommandOption) (seen : Words) : List String → Except UsageError Words
  | [] => .ok seen
  | w :: ws =>
    match read options w with
    | .argument => readWords options { seen with arguments := seen.arguments ++ [w] } ws
    | .terminator => .ok { seen with arguments := seen.arguments ++ ws }
    | .withValue o value => readWords options (seen.give o value) ws
    | .refused e => .error e
    | .option o =>
      if takesValue o then
        match ws with
        | [] => .error (.missingValue w)
        | value :: rest => readWords options (seen.give o value) rest
      else readWords options (seen.give o "") ws

/-- The words of a command, if what is given can be handed on. -/
def checked (w : Words) : Except UsageError Words :=
  if w.help then .error .help
  else if (w.startDirectory.map Machine.hasNul).getD false then .error .badValue
  else .ok w

def readShell (ws : List String) : Except UsageError Invocation := do
  let w ← readWords [.startDirectory, .prompt, .help] {} ws
  let w ← checked w
  match w.arguments with
  | [] => return .shell w.startDirectory w.prompt
  | a :: _ => throw (.unexpectedArgument a)

def readRun (ws : List String) : Except UsageError Invocation := do
  let w ← readWords [.startDirectory, .help] {} ws
  let w ← checked w
  match w.arguments with
  | [] => throw .missingArgument
  | [line] => return .run line w.startDirectory
  | _ :: a :: _ => throw (.unexpectedArgument a)

def readCommand : List String → Except UsageError Invocation
  | [] => .ok (.shell none none)
  | "shell" :: ws => readShell ws
  | "run" :: ws => readRun ws
  | w :: _ => .error (.unknownCommand w)

/-- The invocation a command line asks for; `help` tells whether the description of the commands has
    been asked for before. -/
def parseFrom (help : Bool) : List String → Except UsageError Invocation
  | [] => if help then .error .help else .ok (.shell none none)
  | w :: ws =>
    match read [.help] w with
    | .argument => if help then .error .help else readCommand (w :: ws)
    | .terminator => if help then .error .help else readCommand ws
    | .option _ => parseFrom true ws
    | .withValue .. => parseFrom true ws
    | .refused e => .error e

def parse (arguments : List String) : Except UsageError Invocation := parseFrom false arguments

/-! ## 2. Running an invocation -/

/-- What ends the shell early, without a message of its own. -/
inductive Failure where
  | settings (e : SettingsError)
  | fault (f : Fault)
  deriving DecidableEq, Repr

structure Ending where
  exit : Nat
  output : Bytes := []
  error : Bytes := []
  machine : Machine
  failure : Option Failure := none

/-- The settings that an invocation gives. -/
def given : Invocation → Layer
  | .shell startDirectory prompt => { startDirectory, prompt }
  | .run _ startDirectory => { startDirectory }

/-- The shell that settings ask for, in its first directory. -/
def build (m : Machine) (moment : Moment) (settings : Settings) : Except Ending Shell :=
  let columns := Screen.columns m.environment
  match Logger.configure settings.logLevel settings.logProfile columns {} with
  | (_, some f) => .error { exit := 1, machine := m, failure := some (.fault f) }
  | (logger, none) =>
    match Session.start m settings.startDirectory.text (settings.home.getD m.home) with
    | .error (.refused d f) =>
      let message := Shell.programName ++ ": " ++ (Session.StartError.refused d f).message
      .error { exit := 1, machine := m, error := Bytes.ofLine message }
    | .error (.failed f) => .error { exit := 1, machine := m, failure := some (.fault f) }
    | .ok (machine, session) =>
      let searchPath := m.searchPath settings.searchPath
      .ok (({ machine, session, searchPath, logger, moment } : Shell).note
        (.started session.directory))

/-- Hands one line to a dispatcher, without the blanks around it, unless there is nothing else. -/
def runOnceWith (dispatch : Dispatcher) (line : String) (s : Shell) : Shell :=
  s.obey dispatch (Text.trim line)

def runOnce (run : Runner) (line : String) (s : Shell) : Shell :=
  runOnceWith (Shell.execute run) line s

def unreadMessage (line : Nat) : String :=
  "python-dotenv could not parse statement starting at line " ++ toString line

/-- What is said about the env file before all else. -/
def complaints (m : Machine) : Bytes :=
  m.envFile.unread.flatMap fun line => Bytes.ofLine (unreadMessage line)

/-- Carries out an invocation, the env file having been read. -/
def proceed (run : Runner) (m : Machine) (moment : Moment) (input : String) (i : Invocation) :
    Ending :=
  match Settings.loadOn m (given i) with
  | .error e => { exit := 1, machine := m, failure := some (.settings e) }
  | .ok settings =>
    match build m moment settings with
    | .error ending => ending
    | .ok s =>
      let s :=
        match i with
        | .run line _ => runOnce run line s
        | .shell .. =>
          (s.converse run true { prompt := settings.prompt, rest := (Text.unified input).toList }).1
      { exit := 0, output := s.output, error := s.error, machine := s.machine }

def carryOut (run : Runner) (m : Machine) (moment : Moment) (input : String) (i : Invocation) :
    Ending :=
  let ending := proceed run m moment input i
  { ending with error := complaints m ++ ending.error }

/-- Starts the shell with a command line and an input. -/
def start (run : Runner) (m : Machine) (moment : Moment) (arguments : List String)
    (input : String) : Ending :=
  match parse arguments with
  | .ok i => carryOut run m moment input i
  | .error e =>
    match Screen.columns m.environment with
    | .error f => { exit := 1, machine := m, failure := some (.fault f) }
    | .ok _ => { exit := if e = .help then 0 else 2, machine := m }

end CommandLine

end LineShell
