import LineShell.Text.Printable

/-!
# Quoted texts

How a name is shown inside an error message: between quotes, on one line, every character that
could be mistaken or not seen written as an escape.

* the quotes are single, unless the text holds a single quote and no double one;
* the quote in use and the backslash follow a backslash; tab, line feed and carriage return have
  their letters; any other character without a printed form is written by its number in two, four
  or eight hexadecimal digits, the fewest of these that hold it.
-/

namespace LineShell.Text

/-- The number in lower-case hexadecimal digits, filled with zeros to `width` digits. -/
def hexDigits (width n : Nat) : List Char :=
  let digits := Nat.toDigits 16 n
  List.replicate (width - digits.length) '0' ++ digits

def quoteFor (s : List Char) : Char :=
  if s.contains '\'' && !s.contains '"' then '"' else '\''

/-- One character between the quotes `q`. -/
def escaped (q c : Char) : List Char :=
  if c = q || c = '\\' then ['\\', c]
  else if c = '\t' then ['\\', 't']
  else if c = '\n' then ['\\', 'n']
  else if c = '\r' then ['\\', 'r']
  else if isPrintable c then [c]
  else if c.toNat < 0x100 then '\\' :: 'x' :: hexDigits 2 c.toNat
  else if c.toNat < 0x10000 then '\\' :: 'u' :: hexDigits 4 c.toNat
  else '\\' :: 'U' :: hexDigits 8 c.toNat

def quoted (s : String) : String :=
  let q := quoteFor s.toList
  String.ofList (q :: s.toList.flatMap (escaped q) ++ [q])

end LineShell.Text
