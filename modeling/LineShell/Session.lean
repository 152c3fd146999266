import LineShell.Machine

/-!
# Sessions

A session is the directory the user believes to be in, as it was written, and the home directory.
The machine's working directory follows it: the session only takes on a directory that the machine
has entered. What a target names is worked out from the directory as it is written, without looking
at links.
-/

namespace LineShell

/-- Where the user is, and where home is. -/
structure Session where
  directory : Path := .root
  home : Path := .root
  deriving DecidableEq

namespace Session

/-! ## 1. Targets -/

/-- What the arguments of `cd` ask for: home when there are none, else the first one, with a tilde
    in front replaced by home. -/
def target (s : Session) : List String → String
  | [] => s.home.text
  | a :: _ =>
    match a.toList with
    | '~' :: rest => s.home.text ++ String.ofList rest
    | _ => a

def resolve (s : Session) (target : String) : Path := s.directory.resolve target

/-! ## 2. The start -/

inductive StartError where
  /-- The directory, as it was written, cannot be entered. -/
  | refused (directory : String) (fault : Fault)
  | failed (fault : Fault)
  deriving DecidableEq

def StartError.message : StartError → String
  | .refused d f => "cannot enter start directory " ++ d ++ ": " ++ f.reason
  | .failed f => f.message

/-- The absolute path of a directory; a relative one is read from the working directory. -/
def absolute (m : Machine) (directory : Path) : Except Fault Path :=
  if directory.isAbsolute then .ok directory.collapse
  else
    match m.workingDirectory? with
    | some here => .ok ((Path.ofText here).join directory).collapse
    | none => .error (Errno.fault .noEntry)

def start (m : Machine) (directory : String) (home : Path) :
    Except StartError (Machine × Session) :=
  match absolute m (Path.ofText directory) with
  | .error f => .error (.failed f)
  | .ok d =>
    match m.chdir d with
    | .ok m => .ok (m, ⟨d, home⟩)
    | .error (.system number reason subject) =>
      .error (.refused directory (.system number reason subject))
    | .error f => .error (.failed f)

end Session

end LineShell
