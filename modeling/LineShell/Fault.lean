import LineShell.Text.Quoted

/-!
# Faults

What can go wrong below the shell: an operation of the system that is refused, or a part that fails
for reasons of its own. A fault is its cause; `Fault.message` is the one place that words it.

* `Errno` names the refusals of the system that the file tree knows;
* `Fault` adds what a process runner may answer;
* `Fault.reason` is the short wording that reports to the user use.
-/

namespace LineShell

/-! ## 1. Refusals of the system -/

inductive Errno where
  | noEntry
  | execFormat
  | permission
  | notDirectory
  | isDirectory
  | textBusy
  | noSpace
  | nameTooLong
  | tooManyLinks
  deriving DecidableEq, Repr

def Errno.number : Errno → Nat
  | .noEntry => 2
  | .execFormat => 8
  | .permission => 13
  | .notDirectory => 20
  | .isDirectory => 21
  | .textBusy => 26
  | .noSpace => 28
  | .nameTooLong => 36
  | .tooManyLinks => 40

def Errno.reason : Errno → String
  | .noEntry => "No such file or directory"
  | .execFormat => "Exec format error"
  | .permission => "Permission denied"
  | .notDirectory => "Not a directory"
  | .isDirectory => "Is a directory"
  | .textBusy => "Text file busy"
  | .noSpace => "No space left on device"
  | .nameTooLong => "File name too long"
  | .tooManyLinks => "Too many levels of symbolic links"

/-! ## 2. Faults -/

/-- Why an operation did not come to its result. -/
inductive Fault where
  /-- The system refused, with a number, a reason, and the name it is about where there is one. -/
  | system (number : Int) (reason : String) (subject : Option String)
  | unnumbered (text : String)
  /-- A value cannot be handed to the system at all. -/
  | badValue (text : String)
  /-- A process could not be run to its end. -/
  | process (text : String)
  | internal (text : String)
  deriving DecidableEq, Repr

def Errno.fault (e : Errno) (subject : Option String := none) : Fault :=
  .system e.number e.reason subject

namespace Fault

def nulByte : Fault := .badValue "embedded null byte"

/-- The fault in full. -/
def message : Fault → String
  | .system number reason none => "[Errno " ++ toString number ++ "] " ++ reason
  | .system number reason (some subject) =>
    "[Errno " ++ toString number ++ "] " ++ reason ++ ": " ++ Text.quoted subject
  | .unnumbered text => text
  | .badValue text => text
  | .process text => text
  | .internal text => text

/-- The reason the system gave, empty when it gave none. -/
def systemReason : Fault → String
  | .system _ reason _ => reason
  | _ => ""

/-- The fault in few words: the reason of the system, or else the message. -/
def reason (f : Fault) : String := if f.systemReason = "" then f.message else f.systemReason

/-- The fault comes from the system or from a value it does not take. -/
def isRefusal : Fault → Bool
  | .system .. => true
  | .unnumbered _ => true
  | .badValue _ => true
  | .process _ => false
  | .internal _ => false

/-- The fault is one that starting a process may end in. -/
def isLaunchFailure : Fault → Bool
  | .process _ => true
  | f => f.isRefusal

end Fault

/-- An operation answers a value or an error; answers are compared like these. -/
instance answerDecidableEq {ε α : Type} [DecidableEq ε] [DecidableEq α] : DecidableEq (Except ε α)
  | .ok a, .ok b => decidable_of_iff (a = b) ⟨congrArg _, Except.ok.inj⟩
  | .error e, .error f => decidable_of_iff (e = f) ⟨congrArg _, Except.error.inj⟩
  | .ok _, .error _ => isFalse (fun h => by cases h)
  | .error _, .ok _ => isFalse (fun h => by cases h)

end LineShell
