import LineShell.Fault
import LineShell.Machine
import LineShell.Text.Digits

/-!
# The screen

How many columns the tables of the log have: as many as the variable `COLUMNS` asks for.

* `size` is the number that a variable asks for; a text that holds something else than digits asks
  for nothing, and digits that write no number are refused;
* `columns` are the columns of the screen. Its lines, in `LINES`, are read as well, and matter only
  when they are refused.
-/

namespace LineShell.Screen

/-- The columns of a screen that is not told how many it has. -/
def defaultColumns : Nat := 80

/-- Digits that write no number. -/
def noNumber (text : String) : Fault :=
  .badValue ("invalid literal for int() with base 10: " ++ Text.quoted text)

/-- The number that the value of a variable asks for, if it asks for one. -/
def size (value : Option String) : Except Fault (Option Nat) :=
  match value with
  | none => .ok none
  | some text =>
    if text.isEmpty || !text.toList.all Text.isDigit then .ok none
    else
      match Text.number? text with
      | some n => .ok (some n)
      | none => .error (noNumber text)

def columns (environment : Environment) : Except Fault Nat := do
  let columns ← size (environment.get? "COLUMNS")
  let _ ← size (environment.get? "LINES")
  return columns.getD defaultColumns

end LineShell.Screen
