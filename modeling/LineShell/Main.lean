import LineShell.CommandLine

/-!
# The program

Starts the shell from outside: arguments, variables and input are read, the ending is written.

* `memoryMachine` is the machine the shell runs on: it lives in memory, holds the devices, the
  shell of the system, a directory for temporary files and the home directory, and is gone when the
  program ends;
* the program reads its whole input before the shell runs, and writes what the shell has written
  when it has ended, the output first.
-/

namespace LineShell.CommandLine

/-! ## 1. The machine -/

/-- The location that a path names, steps up left out. -/
def locationOf (p : Path) : Location :=
  (p.segments.filterMap fun s => match s with
    | .down n => some n
    | .up => none).reverse

def firstEntries (home : Path) : List (Path × Node) :=
  [(Path.ofText "/dev/null", .device .null), (Path.ofText "/dev/full", .device .full),
    (Path.ofText "/bin/sh", .file ⟨Image.shellCode, true⟩), (Path.ofText "/tmp", .directory),
    (home, .directory)]

def memoryMachine (environment : Environment) : Machine :=
  let bare : Machine := { environment }
  let files := (firstEntries bare.home).foldl (fun fs e => fs.plant (locationOf e.1) e.2) bare.files
  { bare with files }

/-! ## 2. Messages -/

def usage : String :=
  "usage: " ++ Shell.programName ++
    " [shell [-C DIRECTORY] [--prompt TEXT] | run [-C DIRECTORY] LINE]"

/-- What ended the shell early, in words. -/
def Failure.message : Failure → String
  | .settings (.unknownProfile p) => "unknown log profile: " ++ p
  | .fault f => f.message

/-- What the program itself has to say about an ending. -/
def Ending.remark (e : Ending) : Bytes :=
  match e.failure with
  | some f => Bytes.ofLine (Shell.programName ++ ": " ++ f.message)
  | none => if e.exit = 2 then Bytes.ofLine usage else []

def variableNames : List String :=
  ["HOME", "PATH", "COLUMNS", "LINES", "TINYSH_PROMPT", "TINYSH_START_DIR", "TINYSH_SEARCH_PATH",
    "TINYSH_HOME", "TINYSH_LOG_LEVEL", "TINYSH_LOG_PROFILE"]

/-! ## 3. Input and output -/

partial def readRest (input : IO.FS.Stream) (seen : String) : IO String := do
  let line ← input.getLine
  if line.isEmpty then return seen else readRest input (seen ++ line)

def readEnvironment : IO Environment :=
  variableNames.filterMapM fun name => do
    return (← IO.getEnv name).map fun value => (name, value)

def writeBytes (stream : IO.FS.Stream) (data : Bytes) : IO Unit := do
  stream.write ⟨data.toArray⟩
  stream.flush

end LineShell.CommandLine

open LineShell in
def main (arguments : List String) : IO UInt32 := do
  let input ← CommandLine.readRest (← IO.getStdin) ""
  let machine := CommandLine.memoryMachine (← CommandLine.readEnvironment)
  let ending := CommandLine.start Machine.launch machine ⟨1970, 1, 1, 0, 0, 0, 0⟩ arguments input
  CommandLine.writeBytes (← IO.getStdout) ending.output
  CommandLine.writeBytes (← IO.getStderr) (ending.error ++ ending.remark)
  return UInt32.ofNat ending.exit
