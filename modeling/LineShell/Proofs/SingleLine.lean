import LineShell.CommandLine
import LineShell.Proofs.Conversation

/-!
# One line in two ways

A line can be given on the command line, or be all that there is to read. The two ways trim it
differently: the one takes the blanks off both ends, the other cuts at the line feed, chomps what it
has cut and then takes the blanks off. They come to the same, except that a conversation also notes
that its input is at its end.

* `lines_single`: a line and a line feed are a text of one line;
* `Shell.converseWith_single_line` is the comparison, for any dispatcher, and
  `Shell.converse_says_it_stops` what it comes to where the log is not quiet.
-/

namespace LineShell

open Text

/-- A line and the line feed that ends it are a text of one line. -/
theorem lines_single {line : List Char} (h : '\n' ∉ line) : lines (line ++ ['\n']) = [line] := by
  induction line with
  | nil => exact lines_newline []
  | cons c line ih =>
    have hc : c ≠ '\n' := (List.ne_of_not_mem_cons h).symm
    exact lines_cons hc (ih (List.not_mem_of_not_mem_cons h))

namespace Shell

/-- A conversation about a single line is that line and a note about the end of the input. -/
theorem converseWith_eq_runOnceWith (dispatch : Dispatcher) (r : Reader) (s : Shell)
    {line : String} (hline : '\n' ∉ line.toList) (hrest : r.rest = line.toList ++ ['\n']) :
    s.converseWith dispatch false r =
      ((CommandLine.runOnceWith dispatch line s).note .stopped,
        { r with rest := [], prompts := r.prompts ++ r.prompt ++ r.prompt }) := by
  have honce : (lines r.rest).foldl (turn dispatch false r.prompt) s =
      CommandLine.runOnceWith dispatch line s := by
    rw [hrest, lines_single hline, List.foldl_cons, List.foldl_nil, turn, String.ofList_toList]
    rfl
  have hprompts : r.prompts ++ promptsFor r.prompt ((lines r.rest).length + 1) =
      r.prompts ++ r.prompt ++ r.prompt := by
    rw [hrest, lines_single hline, List.length_singleton, promptsFor_succ, promptsFor_succ,
      String.append_assoc]
    simp [promptsFor]
  have helsewhere : ∀ t : Shell, t.showPrompt false r.prompt = t := fun _ => rfl
  rw [converseWith_eq, honce, hprompts, helsewhere]

/-- **The two ways to run a line agree.** A line without a line feed is given to the command that
    runs one line, or it is read, with the line feed behind it, by a reader that prompts elsewhere
    than on the output of the shell. Whatever the dispatcher makes of it, both ways leave the same
    session, the same machine with its files, and the same bytes on the streams, but for the end of
    the input: the conversation notes it after all else, and the log writes that to the error
    stream unless it is quiet. The prompt is written twice, and nothing is left to be read. -/
theorem converseWith_single_line (dispatch : Dispatcher) (r : Reader) (s : Shell) {line : String}
    (hline : '\n' ∉ line.toList) (hrest : r.rest = line.toList ++ ['\n']) :
    let once := CommandLine.runOnceWith dispatch line s
    s.converseWith dispatch false r =
        ({ once with
            events := once.events ++ [.stopped]
            error := once.error ++ once.logged [.stopped] },
          { r with rest := [], prompts := r.prompts ++ r.prompt ++ r.prompt }) ∧
      (once.IsQuiet → once.logged [.stopped] = []) := by
  intro once
  constructor
  · rw [converseWith_eq_runOnceWith dispatch r s hline hrest, note_eq_logged]
  · intro hquiet
    exact logged_singleton_of_quiet hquiet rfl

/-- A line that ends in a fault, with a carriage return among the blanks behind it. -/
theorem converseWith_single_line_failing :
    '\n' ∉ " run \t\r".toList ∧
      (equipped.converse failing false { rest := " run \t\r\n".toList }).1.error =
        Bytes.ofLine "tinysh: boom" ∧
      (CommandLine.runOnce failing " run \t\r" equipped).error = Bytes.ofLine "tinysh: boom" ∧
      (equipped.converse failing false { rest := " run \t\r\n".toList }).2.prompts = "$ $ " := by
  have hline : '\n' ∉ " run \t\r".toList := by decide
  have honce : (CommandLine.runOnceWith (execute failing) " run \t\r" equipped).error =
      Bytes.ofLine "tinysh: boom" := by decide +kernel
  obtain ⟨hboth, hquiet⟩ := converseWith_single_line (execute failing)
    { rest := " run \t\r\n".toList } equipped hline (by decide)
  have hhandlers : (CommandLine.runOnceWith (execute failing) " run \t\r"
      equipped).logger.handlers = [] := by decide +kernel
  have hnothing := hquiet fun h hh => absurd (hhandlers ▸ hh) List.not_mem_nil
  refine ⟨hline, ?_, ?_, ?_⟩
  · rw [converse, hboth]
    dsimp only
    rw [hnothing, List.append_nil, honce]
  · rw [CommandLine.runOnce, honce]
  · rw [converse, hboth]
    decide

/-- What the log of a watched shell says at the end of the input. -/
def stopRecord : String :=
  "1970-01-01 00:00:00.000 | DEBUG   | tinysh.cli.live:run_shell:18 | shell.stop"

/-- Where the log is not quiet, the error stream tells the two ways apart. -/
theorem converse_says_it_stops :
    '\n' ∉ "pwd".toList ∧
      (watched.converse Machine.launch false { rest := "pwd\n".toList }).1.error =
        (CommandLine.runOnce Machine.launch "pwd" watched).error ++ Bytes.ofLine stopRecord ∧
      (watched.converse Machine.launch false { rest := "pwd\n".toList }).1.error ≠
        (CommandLine.runOnce Machine.launch "pwd" watched).error := by
  have hline : '\n' ∉ "pwd".toList := by decide
  have hlogged : (CommandLine.runOnce Machine.launch "pwd" watched).logged [.stopped] =
      Bytes.ofLine stopRecord := by decide +kernel
  have hstops : (watched.converse Machine.launch false { rest := "pwd\n".toList }).1.error =
      (CommandLine.runOnce Machine.launch "pwd" watched).error ++ Bytes.ofLine stopRecord := by
    rw [← hlogged, converse, converseWith_eq_runOnceWith _ _ _ hline rfl, note_eq_logged]
    rfl
  refine ⟨hline, hstops, fun hsame => ?_⟩
  rw [hstops, List.append_right_eq_self] at hsame
  exact absurd hsame (by decide)

end Shell

end LineShell
