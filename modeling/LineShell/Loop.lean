import LineShell.Execute

/-!
# Reading and running lines

The shell's conversation with its input: prompt, read a line, run it, until the input ends.

* a line ends at a line feed; the last one may end with the input;
* the line feed and the carriage returns before it are not part of the line;
* only a reading that finds nothing at all ends the input: an empty line is a line;
* a line of blanks alone is not run.
-/

namespace LineShell

/-! ## 1. Reading -/

/-- Somebody who answers prompts with lines: the prompt, what is still to be read, and the prompts
    written so far. -/
structure Reader where
  prompt : String := "$ "
  rest : List Char := []
  prompts : String := ""

/-- A text cut after its first line feed. -/
def cutLine : List Char → List Char × List Char
  | [] => ([], [])
  | c :: cs =>
    if c = '\n' then ([c], cs)
    else
      let (line, rest) := cutLine cs
      (c :: line, rest)

theorem length_cutLine : ∀ cs : List Char, (cutLine cs).2.length + (cutLine cs).1.length = cs.length
  | [] => rfl
  | c :: cs => by
    have ih := length_cutLine cs
    unfold cutLine
    split
    · simp
    · simp only [List.length_cons]; omega

theorem cutLine_ne_nil (c : Char) (cs : List Char) : (cutLine (c :: cs)).1 ≠ [] := by
  unfold cutLine; split <;> simp

/-- A line without the line feed and the carriage returns that end it. -/
def chomp (line : List Char) : List Char :=
  (line.reverse.dropWhile fun c => c == '\n' || c == '\r').reverse

/-- Prompts, and reads one line; none at the end of the input. -/
def Reader.read (r : Reader) : Option String × Reader :=
  let asked := { r with prompts := r.prompts ++ r.prompt }
  match r.rest with
  | [] => (none, asked)
  | c :: cs =>
    let (line, rest) := cutLine (c :: cs)
    (some (String.ofList (chomp line)), { asked with rest := rest })

/-- A reading that finds a line leaves less to be read. -/
theorem Reader.length_rest_lt {r r' : Reader} {line : String} (h : r.read = (some line, r')) :
    r'.rest.length < r.rest.length := by
  unfold Reader.read at h
  cases hr : r.rest with
  | nil => simp [hr] at h
  | cons c cs =>
    have h1 := length_cutLine (c :: cs)
    have h2 : (cutLine (c :: cs)).1.length ≠ 0 := by
      simpa using cutLine_ne_nil c cs
    simp only [hr, Prod.mk.injEq] at h
    rw [← h.2]
    dsimp only
    omega

/-- Somebody is there: both ends are terminals. An input that cannot tell is none. -/
def isInteractive (input : Option Bool) (output : Bool) : Bool := input == some true && output

/-! ## 2. The loop -/

namespace Shell

/-- One command, handed to a dispatcher unless it is empty. -/
def obey (dispatch : Dispatcher) (command : String) (s : Shell) : Shell :=
  if command = "" then s else s.attempt dispatch command

/-- The prompt on the output stream, where the two share a terminal. -/
def showPrompt (shared : Bool) (prompt : String) (s : Shell) : Shell :=
  if shared then s.put .output (Bytes.ofText prompt) else s

/-- Hands what the reader reads to a dispatcher until the input ends. With `shared`, prompts go to
    the output stream as well. -/
def converseWith (dispatch : Dispatcher) (shared : Bool) (r : Reader) (s : Shell) :
    Shell × Reader :=
  match _h : r.read with
  | (none, r') => ((s.showPrompt shared r.prompt).note .stopped, r')
  | (some line, r') =>
    converseWith dispatch shared r' ((s.showPrompt shared r.prompt).obey dispatch (Text.trim line))
termination_by r.rest.length
decreasing_by exact Reader.length_rest_lt (by assumption)

def converse (run : Runner) (shared : Bool) (r : Reader) (s : Shell) : Shell × Reader :=
  s.converseWith (execute run) shared r

end Shell

end LineShell
