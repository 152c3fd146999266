import LineShell.Files.Walk

/-!
# Open files

A handle is an open file on its way to being written. It keeps its own offset, and it keeps small
writes back until it is flushed or closed:

* what fits into the room left of the buffer waits there;
* anything larger first sends what waits, and is sent itself if it is larger than the buffer;
* a handle opened for appending writes at the end the file has at that moment, any other where its
  last write ended;
* a device may refuse what is sent; then it goes on waiting.
-/

namespace LineShell

/-! ## 1. Handles -/

inductive Object where
  | file (l : Location)
  | device (d : Device)
  deriving DecidableEq

structure Handle where
  object : Object
  append : Bool
  offset : Nat := 0
  waiting : Bytes := []
  deriving DecidableEq

/-- What is done with a handle's object as a whole. -/
inductive FileUse where
  | opened (o : Object)
  | closed (o : Object)
  deriving DecidableEq

/-- The bytes a handle keeps back at most. -/
def bufferSize : Nat := 4096

/-! ## 2. Opening -/

/-- Opens a file for writing, read from the place `start`: a missing file is created empty, an
    existing one is emptied unless its content is kept. -/
def Files.openFile (files : Files) (start : Place) (path : String) (append : Bool) :
    Except Errno (Files × Handle) :=
  match files.find true start path with
  | .error e => .error e
  | .ok (.absent d n) => .ok (files.set (n :: d) (.file {}), ⟨.file (n :: d), append, 0, []⟩)
  | .ok (.found p) =>
    match files.at? p with
    | some (.file f) =>
      let files := if append then files else files.set p.base (.file { f with content := [] })
      .ok (files, ⟨.file p.base, append, 0, []⟩)
    | some (.device d) => .ok (files, ⟨.device d, append, 0, []⟩)
    | some .directory => .error .isDirectory
    | some (.link _) => .error .tooManyLinks
    | none => .error .noEntry

/-! ## 3. Writing -/

/-- Sends bytes to what the handle writes to. -/
def Files.send (files : Files) (h : Handle) (data : Bytes) : Except Errno (Files × Handle) :=
  match h.object with
  | .device .null => .ok (files, h)
  | .device .full => if data.isEmpty then .ok (files, h) else .error .noSpace
  | .file l =>
    match files.get? l with
    | some (.file f) =>
      let offset := if h.append then f.content.length else h.offset
      .ok (files.set l (.file { f with content := f.content.patch offset data }),
        { h with offset := offset + data.length })
    | _ => .ok (files, h)

def Files.flush (files : Files) (h : Handle) : Except Errno (Files × Handle) :=
  if h.waiting.isEmpty then .ok (files, h)
  else
    match files.send h h.waiting with
    | .ok (files, h) => .ok (files, { h with waiting := [] })
    | .error e => .error e

/-- Writes to the handle: into its buffer, or through it. -/
def Files.write (files : Files) (h : Handle) (data : Bytes) : Except Errno (Files × Handle) :=
  if data.length ≤ bufferSize - h.waiting.length && data.length < bufferSize then
    .ok (files, { h with waiting := h.waiting ++ data })
  else
    match files.flush h with
    | .error e => .error e
    | .ok (files, h) =>
      if bufferSize < data.length then files.send h data
      else .ok (files, { h with waiting := data })

end LineShell
