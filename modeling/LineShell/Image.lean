import LineShell.Bytes

/-!
# Executable images

What the system makes of the bytes of an executable file.

* `shellCode` stands for the machine code of the one program there is, the shell of the system;
* a file that begins with `#!` is a script: its first line names the file that is run in its place,
  and perhaps one argument for it;
* the system looks at the first 256 bytes, zeros after the end of the file; a first line that ends
  later has to name a file that does not reach the end of them;
* anything else cannot be executed.
-/

namespace LineShell

/-- What an executable file is run as. -/
inductive Image where
  | shell
  /-- A script: the file that is run in its place, and the argument that one is given first. -/
  | script (interpreter : Bytes) (argument : Option Bytes)
  deriving DecidableEq, Repr

namespace Image

def shellCode : Bytes := 0x7f :: Bytes.ofText "ELF sh"

/-- The bytes the system looks at. -/
def headSize : Nat := 256

def head (content : Bytes) : Bytes := (content ++ List.replicate headSize 0).take headSize

def isGap (b : UInt8) : Bool := b == 0x20 || b == 0x09

/-- A byte that ends the name of a file in the first line. -/
def isEnd (b : UInt8) : Bool := isGap b || b == 0

/-- What follows `#!` in the first line, if the line is known to be whole as far as it matters. -/
def firstLine? (rest : Bytes) : Option Bytes :=
  if (rest.takeWhile (· != 0)).contains 0x0a then some (rest.takeWhile (· != 0x0a))
  else if (rest.dropWhile isGap).any isEnd then some rest.dropLast
  else none

/-- The script whose first line is this. -/
def ofFirstLine? (line : Bytes) : Option Image :=
  match ((line.reverse.dropWhile isGap).reverse).dropWhile isGap with
  | [] => none
  | b :: bs =>
    let name := (b :: bs).takeWhile (!isEnd ·)
    match (b :: bs).dropWhile (!isEnd ·) with
    | gap :: rest =>
      if gap = 0 then some (.script name none)
      else some (.script name (some ((rest.dropWhile isGap).takeWhile (· != 0))))
    | [] => some (.script name none)

def ofContent? (content : Bytes) : Option Image :=
  if content = shellCode then some .shell
  else
    match head content with
    | 0x23 :: 0x21 :: rest => (firstLine? rest).bind ofFirstLine?
    | _ => none

end Image

end LineShell
