import LineShell.Loop
import LineShell.Proofs.LoggerHistory
import LineShell.Proofs.Routing

/-!
# A conversation, line by line

The loop cuts its input at line feeds, chomps what it has cut and trims what it has chomped. A fold
over the lines of the input comes to the same.

* `lines` are the lines of a text, and `commands` are its lines without the blanks around them and
  without those that are blank;
* `Reader.read_line` is one reading: it takes the first line of the text, and leaves the others;
* `Shell.turn` is one line of a conversation, the prompt and then the command;
* `Shell.converseWith_eq` is the whole conversation, and `Shell.foldl_turn` its commands where the
  prompts go elsewhere;
* `Shell.logged_of_handlers` is what the log adds to the error stream: by default the failure of a
  line, and nothing about the end of the input.

Nothing here depends on what a line does: a dispatcher may leave any shell and end in any fault.
-/

namespace LineShell

open Text

/-! ## 1. Lines -/

/-- The lines of a text: what stands between its line feeds, and behind the last one unless nothing
    does. -/
def lines (text : List Char) : List (List Char) :=
  if (pieces '\n' text).getLast? = some [] then (pieces '\n' text).dropLast else pieces '\n' text

/-- The commands of a text: its lines without the blanks around them, and without those that are
    blank. -/
def commands (text : List Char) : List String :=
  ((lines text).map fun line => trim (String.ofList line)).filter (· ≠ "")

example : lines "a\n\r\n b".toList = ["a".toList, ['\r'], " b".toList] := by decide

/-- A line feed ends the first line, whatever stands behind it. -/
theorem lines_newline (text : List Char) : lines ('\n' :: text) = [] :: lines text := by
  have hpieces : pieces '\n' ('\n' :: text) = [] :: pieces '\n' text := rfl
  unfold lines
  rw [hpieces]
  cases hp : pieces '\n' text with
  | nil => exact absurd hp (pieces_ne_nil _ _)
  | cons p ps =>
    rw [List.getLast?_cons_cons, List.dropLast_cons_cons]
    split <;> rfl

/-- Any other character belongs to the first line. -/
theorem lines_cons {c : Char} (hc : c ≠ '\n') {text line : List Char} {rest : List (List Char)}
    (h : lines text = line :: rest) : lines (c :: text) = (c :: line) :: rest := by
  have hc : (c == '\n') = false := beq_eq_false_iff_ne.mpr hc
  unfold lines at h ⊢
  cases hp : pieces '\n' text with
  | nil => exact absurd hp (pieces_ne_nil _ _)
  | cons p ps =>
    have hpieces : pieces '\n' (c :: text) = (c :: p) :: ps := by
      unfold pieces at hp ⊢
      rw [piecesBy, hp, hc]
      rfl
    rw [hp] at h
    rw [hpieces]
    cases ps with
    | nil =>
      by_cases hempty : p = []
      · subst hempty
        cases h
      · rw [if_neg (by simpa using hempty)] at h
        cases h
        rfl
    | cons q qs =>
      rw [List.getLast?_cons_cons, List.dropLast_cons_cons] at h ⊢
      split at h
      · next hend =>
        cases h
        rw [if_pos hend]
      · next hend =>
        cases h
        rw [if_neg hend]

/-- **What is cut off is the first line**, with the line feed that ends it, if one does. -/
theorem lines_of_ne_nil {text : List Char} (h : text ≠ []) :
    ∃ line ending, (cutLine text).1 = line ++ ending ∧ (∀ c ∈ ending, c = '\n') ∧
      lines text = line :: lines (cutLine text).2 := by
  induction text with
  | nil => exact absurd rfl h
  | cons c text ih =>
    by_cases hc : c = '\n'
    · subst hc
      exact ⟨[], ['\n'], rfl, fun c hc => List.mem_singleton.mp hc, lines_newline text⟩
    · have hcut : cutLine (c :: text) = (c :: (cutLine text).1, (cutLine text).2) := by
        rw [cutLine, if_neg hc]
      rw [hcut]
      cases text with
      | nil =>
        have hlines : lines [c] = [[c]] := by
          have hne : (c == '\n') = false := beq_eq_false_iff_ne.mpr hc
          simp [lines, pieces, piecesBy, hne]
        exact ⟨[c], [], rfl, fun _ hd => absurd hd List.not_mem_nil, hlines⟩
      | cons d text =>
        obtain ⟨line, ending, hcut, hending, hlines⟩ := ih (List.cons_ne_nil d text)
        exact ⟨c :: line, ending, congrArg (c :: ·) hcut, hending, lines_cons hc hlines⟩

/-! ## 2. Readings -/

/-- What is chomped are line feeds and carriage returns. -/
theorem exists_append_chomp (line : List Char) :
    ∃ ending, line = chomp line ++ ending ∧ ∀ c ∈ ending, isBlank c = true := by
  obtain ⟨ending, hline, hending⟩ := exists_append_dropEnd (fun c => c == '\n' || c == '\r') line
  refine ⟨ending, hline, fun c hc => ?_⟩
  have hend := hending c hc
  simp only [Bool.or_eq_true, beq_iff_eq] at hend
  rcases hend with rfl | rfl <;> decide

/-- Chomping is part of trimming. -/
theorem trim_chomp (line : List Char) :
    trim (String.ofList (chomp line)) = trim (String.ofList line) := by
  obtain ⟨ending, hline, hending⟩ := exists_append_chomp line
  rw [← trim_append _ hending, ← hline]

namespace Reader

variable {r : Reader}

/-- At the end of its input a reader prompts once more. -/
theorem read_end (h : r.rest = []) :
    r.read = (none, { r with prompts := r.prompts ++ r.prompt }) := by
  rw [read, h]

/-- **A reading takes the first line** of what is left, after one prompt; nothing but blanks is
    missing from it. -/
theorem read_line (h : r.rest ≠ []) :
    ∃ read line rest,
      r.read = (some read, { r with rest := rest, prompts := r.prompts ++ r.prompt }) ∧
        trim read = trim (String.ofList line) ∧ lines r.rest = line :: lines rest := by
  obtain ⟨line, ending, hcut, hending, hlines⟩ := lines_of_ne_nil h
  obtain ⟨c, cs, hrest⟩ := List.exists_cons_of_ne_nil h
  refine ⟨String.ofList (chomp (cutLine r.rest).1), line, (cutLine r.rest).2, ?_, ?_, hlines⟩
  · rw [read, hrest]
  · rw [trim_chomp, hcut]
    refine trim_append line fun c hc => ?_
    rw [hending c hc]
    decide

end Reader

/-! ## 3. Turns -/

namespace Shell

/-- One line of a conversation: the prompt, and then the command that the line is. -/
def turn (dispatch : Dispatcher) (shared : Bool) (prompt : String) (s : Shell)
    (line : List Char) : Shell :=
  (s.showPrompt shared prompt).obey dispatch (trim (String.ofList line))

/-- The prompts of a conversation: one before each line, and one before the input ends. -/
def promptsFor (prompt : String) (count : Nat) : String := String.join (List.replicate count prompt)

theorem promptsFor_succ (prompt : String) (count : Nat) :
    promptsFor prompt (count + 1) = prompt ++ promptsFor prompt count := by
  simp [promptsFor, List.replicate_succ]

/-- **A conversation is a turn for each line**, and a last prompt that nothing answers. -/
theorem converseWith_eq (dispatch : Dispatcher) (shared : Bool) (r : Reader) (s : Shell) :
    s.converseWith dispatch shared r =
      ((((lines r.rest).foldl (turn dispatch shared r.prompt) s).showPrompt shared r.prompt).note
          .stopped,
        { r with
          rest := []
          prompts := r.prompts ++ promptsFor r.prompt ((lines r.rest).length + 1) }) := by
  -- what is left to be read gets shorter with each line; prompt and session vary on the way
  generalize hsize : r.rest.length = size
  induction size using Nat.strongRecOn generalizing r s with
  | ind size ih =>
    rw [converseWith]
    by_cases hrest : r.rest = []
    · have hlines : lines r.rest = [] := by rw [hrest]; rfl
      have hread := Reader.read_end hrest
      split
      · next r' hend =>
        cases hread.symm.trans hend
        rw [hlines]
        simp [promptsFor, hrest]
      · next line r' hline => cases hread.symm.trans hline
    · obtain ⟨read, line, rest, hread, htrim, hlines⟩ := Reader.read_line hrest
      split
      · next r' hend => cases hread.symm.trans hend
      · next line' r' hline =>
        cases hread.symm.trans hline
        have hless := Reader.length_rest_lt hread
        rw [ih _ (hsize ▸ hless) _ _ rfl, hlines, htrim]
        simp only [List.foldl_cons, List.length_cons, promptsFor_succ, String.append_assoc]
        rfl

/-- Where the prompts go elsewhere, the turns are the commands and nothing else. -/
theorem foldl_turn (dispatch : Dispatcher) (prompt : String) (text : List Char) (s : Shell) :
    (lines text).foldl (turn dispatch false prompt) s =
      (commands text).foldl (fun s command => s.attempt dispatch command) s := by
  unfold commands
  induction lines text generalizing s with
  | nil => rfl
  | cons line rest ih =>
    rw [List.foldl_cons, ih, List.map_cons]
    by_cases hblank : trim (String.ofList line) = ""
    · rw [List.filter_cons_of_neg (by simpa using hblank), turn, obey, if_pos hblank]
      rfl
    · rw [List.filter_cons_of_pos (by simpa using hblank), List.foldl_cons, turn, obey,
        if_neg hblank]
      rfl

theorem converseWith_eq_foldl (dispatch : Dispatcher) (r : Reader) (s : Shell) :
    (s.converseWith dispatch false r).1 =
      ((commands r.rest).foldl (fun s command => s.attempt dispatch command) s).note .stopped := by
  rw [converseWith_eq, foldl_turn]
  rfl

/-! ## 4. What the log adds -/

/-- A fault that nothing has handled costs its line: it is said on the error stream, behind what the
    line has written and what the log has to say of it, and nothing else changes. -/
theorem attempt_of_fault {dispatch : Dispatcher} {line : String} {s t : Shell} {f : Fault}
    (h : dispatch line s = (t, some f)) :
    s.attempt dispatch line =
      { t with
        events := t.events ++ [.lineFailed line (t.trace f)]
        error := t.error ++ t.logged [.lineFailed line (t.trace f)] ++
          Bytes.ofLine (programName ++ ": " ++ f.message) } := by
  rw [attempt, h]
  dsimp only
  rw [note_eq_logged]
  rfl

theorem logged_of_handlers {s : Shell} {h : Handler} (hh : s.logger.handlers = [h]) (e : Event) :
    s.logged [e] =
      if h.threshold.weight ≤ e.level.weight then Bytes.ofText ((e.record s.moment).text h.layout)
      else [] := by
  have hlevel : (e.record s.moment).level = e.level := rfl
  rw [logged, List.flatMap_singleton, Logger.emit_of_handlers hh, hlevel]
  split
  · rfl
  · exact Bytes.ofText_empty

/-- By default the log says of a line that failed which line it was, with the trace of its fault. -/
theorem LogsByDefault.logged_lineFailed {s : Shell} (h : s.LogsByDefault) (line trace : String) :
    s.logged [.lineFailed line trace] =
      Bytes.ofText ((Event.lineFailed line trace).record s.moment).plainText := by
  have hheavy : Level.warning.weight ≤ (Event.lineFailed line trace).level.weight :=
    show 30 ≤ 40 by decide
  rw [logged_of_handlers h.handlers, if_pos hheavy]
  rfl

/-! ## 5. A conversation -/

/-- **The loop runs every line once, and ends**, whatever a dispatcher makes of it. A conversation
    is a turn for each line of the input, in order: the prompt, and then the line without the blanks
    around it, unless it is blank. One more prompt is answered by the end of the input, of which
    nothing is left. Where the prompts go to another stream than the output of the shell, the
    conversation does what its commands do one after another, each in the shell that those before
    have left, and notes the end of the input; the log writes that to the error stream unless it is
    quiet. A command that ends in a fault is no exception: the fault is said on the error stream,
    and forgotten. Before that the log has the record of it, unless it passes over errors; by
    default it does not. -/
theorem converseWith_runs_lines (dispatch : Dispatcher) (r : Reader) (s : Shell) :
    let folded := (commands r.rest).foldl (fun s command => s.attempt dispatch command) s
    (∀ shared, s.converseWith dispatch shared r =
      ((((lines r.rest).foldl (turn dispatch shared r.prompt) s).showPrompt shared r.prompt).note
          .stopped,
        { r with
          rest := []
          prompts := r.prompts ++ promptsFor r.prompt ((lines r.rest).length + 1) })) ∧
      ((s.converseWith dispatch false r).1 =
          { folded with
            events := folded.events ++ [.stopped]
            error := folded.error ++ folded.logged [.stopped] } ∧
        (folded.IsQuiet ∨ folded.LogsByDefault → folded.logged [.stopped] = [])) ∧
      (∀ line t u, dispatch line t = (u, none) → t.attempt dispatch line = u) ∧
      ∀ line t u f, dispatch line t = (u, some f) →
        t.attempt dispatch line =
            { u with
              events := u.events ++ [.lineFailed line (u.trace f)]
              error := u.error ++ u.logged [.lineFailed line (u.trace f)] ++
                Bytes.ofLine (programName ++ ": " ++ f.message) } ∧
          (u.PassesOver .error → u.logged [.lineFailed line (u.trace f)] = []) ∧
          (u.LogsByDefault → u.logged [.lineFailed line (u.trace f)] =
            Bytes.ofText ((Event.lineFailed line (u.trace f)).record u.moment).plainText) := by
  intro folded
  refine ⟨fun shared => converseWith_eq dispatch shared r s, ⟨?_, fun hlog => ?_⟩,
    fun line t u h => ?_, fun line t u f h => ⟨attempt_of_fault h, fun hpasses => ?_, fun hlog => ?_⟩⟩
  · rw [converseWith_eq_foldl, note_eq_logged]
  · have hquiet : folded.IsQuiet := hlog.elim id LogsByDefault.isQuiet
    exact logged_singleton_of_quiet hquiet rfl
  · rw [attempt, h]
  · exact logged_eq_nil fun e he => List.mem_singleton.mp he ▸ hpasses
  · exact hlog.logged_lineFailed _ _

/-- A runner that fails for reasons of its own. -/
def failing : Runner := fun _ _ _ => .error (.internal "boom")

/-- A shell that finds one program. -/
def equipped : Shell :=
  { machine := { files := ⟨[([⟨"run", by decide⟩], .file {})]⟩ }, searchPath := "/" }

/-- That shell with the log that a shell has by default, and a trace for each fault. -/
def reporting : Shell :=
  { equipped with
    logger := ⟨some ⟨"default", "WARNING"⟩, [⟨.warning, .plain⟩]⟩
    trace := fun f => "raised " ++ f.message }

/-- What the log says of a line that failed there. -/
def failureRecord : String :=
  "1970-01-01 00:00:00.000 | ERROR   | tinysh.cli.live:run_line:33 | shell.line.error line=run\n" ++
    "raised boom\n"

theorem execute_reporting :
    (reporting.execute failing "run").2 = some (.internal "boom") ∧
      (reporting.execute failing "run").1.error = [] ∧
      (reporting.execute failing "run").1.LogsByDefault :=
  ⟨by decide +kernel, by decide +kernel, logsByDefault_iff.mpr (by decide +kernel)⟩

theorem plainText_failure :
    ((Event.lineFailed "run" (reporting.trace (.internal "boom"))).record
      reporting.moment).plainText = failureRecord := by
  decide +kernel

theorem text_failure : programName ++ ": " ++ Fault.message (.internal "boom") = "tinysh: boom" := by
  decide +kernel

/-- A line that fails, a blank one, and one that is run all the same; the log says of the first that
    it failed, and nothing of the end. -/
theorem converseWith_runs_lines_failing :
    reporting.LogsByDefault ∧
      (reporting.execute failing "run").2 = some (.internal "boom") ∧
      (reporting.attempt (execute failing) "run").error =
        Bytes.ofText failureRecord ++ Bytes.ofLine "tinysh: boom" ∧
      (reporting.converse failing false { rest := " run \n\r\n\tpwd".toList }).1.error =
        Bytes.ofText failureRecord ++ Bytes.ofLine "tinysh: boom" ∧
      (reporting.converse failing false { rest := " run \n\r\n\tpwd".toList }).1.output =
        Bytes.ofLine "/" ∧
      (reporting.converse failing false { rest := " run \n\r\n\tpwd".toList }).2.prompts =
        "$ $ $ $ " := by
  obtain ⟨hfails, hsilent, hdefault⟩ := execute_reporting
  have hcommand : commands " run \n\r\n\tpwd".toList = ["run", "pwd"] := by decide +kernel
  have hcount : (lines " run \n\r\n\tpwd".toList).length = 3 := by decide +kernel
  obtain ⟨hturns, ⟨hfolded, hend⟩, -, hfault⟩ := converseWith_runs_lines (execute failing)
    { rest := " run \n\r\n\tpwd".toList } reporting
  obtain ⟨hattempt, -, hrecord⟩ := hfault "run" reporting (reporting.execute failing "run").1
    (.internal "boom") (Prod.ext rfl hfails)
  have hrecorded := (hrecord hdefault).trans (congrArg Bytes.ofText plainText_failure)
  rw [hcommand] at hfolded hend
  have hnothing := hend (.inr (logsByDefault_iff.mpr (by decide +kernel)))
  refine ⟨logsByDefault_iff.mpr rfl, hfails, ?_, ?_, ?_, ?_⟩
  · rw [hattempt]
    dsimp only
    rw [hsilent, hrecorded, text_failure, List.nil_append]
  · rw [converse, hfolded]
    dsimp only
    rw [hnothing]
    decide +kernel
  · rw [converse, hfolded]
    decide +kernel
  · rw [converse, hturns, hcount]
    decide

/-- A shell whose log writes everything that is noted. -/
def watched : Shell :=
  { machine := {}, logger := ⟨some ⟨"default", "DEBUG"⟩, [⟨.debug, .plain⟩]⟩ }

/-- The log has its part in a conversation: by default a line that fails has more on the error
    stream than its fault, and where the log is not quiet a conversation has more there than its
    commands. -/
theorem converse_logs_more :
    (reporting.LogsByDefault ∧
      (reporting.execute failing "run").2 = some (.internal "boom") ∧
      (reporting.execute failing "run").1.error = [] ∧
      (reporting.attempt (execute failing) "run").error =
        Bytes.ofText failureRecord ++ Bytes.ofLine "tinysh: boom" ∧
      (reporting.attempt (execute failing) "run").error ≠ Bytes.ofLine "tinysh: boom") ∧
    (watched.converse Machine.launch false { rest := " pwd \n\r\npwd".toList }).1.error ≠
      ((commands " pwd \n\r\npwd".toList).foldl
        (fun s command => s.attempt (execute Machine.launch) command) watched).error := by
  obtain ⟨hfails, hsilent, hdefault⟩ := execute_reporting
  have hrecorded := (hdefault.logged_lineFailed "run"
    ((reporting.execute failing "run").1.trace (.internal "boom"))).trans
      (congrArg Bytes.ofText plainText_failure)
  have hattempt : (reporting.attempt (execute failing) "run").error =
      Bytes.ofText failureRecord ++ Bytes.ofLine "tinysh: boom" := by
    rw [attempt_of_fault (t := (reporting.execute failing "run").1) (Prod.ext rfl hfails)]
    dsimp only
    rw [hsilent, hrecorded, text_failure, List.nil_append]
  refine ⟨⟨logsByDefault_iff.mpr rfl, hfails, hsilent, hattempt, ?_⟩, ?_⟩
  · rw [hattempt, ne_eq, List.append_left_eq_self]
    decide +kernel
  · have hcommands : commands " pwd \n\r\npwd".toList = ["pwd", "pwd"] := by decide +kernel
    rw [converse, converseWith_eq_foldl, hcommands, note_eq_logged]
    dsimp only
    rw [ne_eq, List.append_right_eq_self]
    decide +kernel

end Shell

end LineShell
