import LineShell.Proofs.Contents

/-!
# Where everything goes

A line without a command does nothing. Any other, once its sinks are open and its command is known,
does what the rules of `Acts` say, and each byte of it goes to one place:

* what a command hands over goes to its sinks: to the file that a channel is redirected to, behind
  what the redirection leaves of it, or to the stream of the process;
* what is reported goes to the error stream of the process, whatever the line redirects;
* what the log has to say goes there too, before all else, and nothing else does. It is of little
  weight, so a log that is quiet has nothing to say.

`Shell.Noted` follows the two streams up to the point where the command has acted,
`Shell.stream_settle` follows them through the sinks, `Shell.Received` is what the sinks have got,
and `Shell.execute_routes` puts the three together.
-/

namespace LineShell

namespace Shell

/-! ## 1. What the log writes -/

/-- What the log writes for events. -/
def logged (s : Shell) (es : List Event) : Bytes :=
  es.flatMap fun e => Bytes.ofText (s.logger.emit (e.record s.moment))

/-- The log passes over records of this level. -/
def PassesOver (s : Shell) (level : Level) : Prop :=
  ∀ h ∈ s.logger.handlers, h.accepts level = false

theorem logged_eq_nil {s : Shell} {es : List Event} (h : ∀ e ∈ es, s.PassesOver e.level) :
    s.logged es = [] := by
  refine List.flatMap_eq_nil_iff.mpr fun e he => ?_
  have hnone : s.logger.handlers.filter (·.accepts (e.record s.moment).level) = [] :=
    List.filter_eq_nil_iff.mpr fun handler hhandler =>
      Bool.eq_false_iff.mp (h e he handler hhandler)
  rw [Logger.emit, hnone]
  exact Bytes.ofText_empty

/-- The log passes over records that are of interest only to somebody looking for them. -/
def IsQuiet (s : Shell) : Prop := s.PassesOver .debug

theorem logged_of_quiet {s : Shell} (hquiet : s.IsQuiet) {es : List Event}
    (hes : ∀ e ∈ es, e.level = .debug) : s.logged es = [] :=
  logged_eq_nil fun e he => by rw [hes e he]; exact hquiet

theorem logged_singleton_of_quiet {s : Shell} (hquiet : s.IsQuiet) {e : Event}
    (he : e.level = .debug) : s.logged [e] = [] :=
  logged_of_quiet hquiet fun f hf => by rw [List.mem_singleton.mp hf, he]

/-- The log is the one that a shell has when it is not asked for another. -/
def LogsByDefault (s : Shell) : Prop :=
  ∃ columns, s.logger = (Logger.configure Logger.defaultLevel Logger.defaultProfile columns {}).1

/-- It has one handler, for warnings and what weighs more. -/
theorem logsByDefault_iff {s : Shell} :
    s.LogsByDefault ↔ s.logger = ⟨some ⟨"default", "WARNING"⟩, [⟨.warning, .plain⟩]⟩ := by
  have hlevel : Text.upper Logger.defaultLevel = "WARNING" := by decide +kernel
  have hconfigure : ∀ columns, (Logger.configure Logger.defaultLevel Logger.defaultProfile columns
      {}).1 = ⟨some ⟨"default", "WARNING"⟩, [⟨.warning, .plain⟩]⟩ := by
    intro columns
    rw [Logger.configure, if_neg nofun, hlevel]
    rfl
  constructor
  · rintro ⟨columns, hlogger⟩
    rw [hlogger, hconfigure]
  · intro hlogger
    exact ⟨.ok 80, by rw [hlogger, hconfigure]⟩

theorem LogsByDefault.handlers {s : Shell} (h : s.LogsByDefault) :
    s.logger.handlers = [⟨.warning, .plain⟩] := by
  rw [logsByDefault_iff.mp h]

theorem LogsByDefault.isQuiet {s : Shell} (h : s.LogsByDefault) : s.IsQuiet := by
  intro handler hhandler
  rw [h.handlers, List.mem_singleton] at hhandler
  rw [hhandler]
  rfl

/-! ## 2. Up to the command -/

/-- What has been written to the stream of the process behind a channel. -/
def stream (s : Shell) : Channel → Bytes
  | .output => s.output
  | .error => s.error

theorem note_eq_logged (e : Event) (s : Shell) :
    s.note e = { s with events := s.events ++ [e], error := s.error ++ s.logged [e] } := by
  rw [logged, List.flatMap_singleton, note]

/-- On the way from `s` to `t` these events have been noted, all of little weight, and nothing but
    the log has written to the streams. -/
structure Noted (s : Shell) (es : List Event) (t : Shell) : Prop where
  events : t.events = s.events ++ es
  debug : ∀ e ∈ es, e.level = .debug
  output : t.output = s.output
  error : t.error = s.error ++ s.logged es
  logger : t.logger = s.logger
  moment : t.moment = s.moment

namespace Noted

/-- Nothing has been noted, and nothing has been written. -/
theorem of_eq {s t : Shell} (events : t.events = s.events) (output : t.output = s.output)
    (error : t.error = s.error) (logger : t.logger = s.logger) (moment : t.moment = s.moment) :
    s.Noted [] t where
  events := events.trans (List.append_nil _).symm
  debug := fun _ he => absurd he List.not_mem_nil
  output := output
  error := error.trans (List.append_nil _).symm
  logger := logger
  moment := moment

theorem refl (s : Shell) : s.Noted [] s := of_eq rfl rfl rfl rfl rfl

theorem trans {s t u : Shell} {es fs : List Event} (h : s.Noted es t) (k : t.Noted fs u) :
    s.Noted (es ++ fs) u where
  events := by rw [k.events, h.events, List.append_assoc]
  debug := fun e he => (List.mem_append.mp he).elim (h.debug e) (k.debug e)
  output := k.output.trans h.output
  error := by
    have hl : t.logged fs = s.logged fs := by rw [logged, logged, h.logger, h.moment]
    rw [k.error, h.error, hl, List.append_assoc, logged, logged, logged, List.flatMap_append]
  logger := k.logger.trans h.logger
  moment := k.moment.trans h.moment

theorem note {e : Event} (he : e.level = .debug) (s : Shell) : s.Noted [e] (s.note e) where
  events := rfl
  debug := fun f hf => List.mem_singleton.mp hf ▸ he
  output := rfl
  error := by simp [Shell.note, logged]
  logger := rfl
  moment := rfl

theorem noteAll {es : List Event} (hes : ∀ e ∈ es, e.level = .debug) (s : Shell) :
    s.Noted es (s.noteAll es) := by
  induction es generalizing s with
  | nil => exact refl s
  | cons e es ih =>
    have he := note (hes e List.mem_cons_self) s
    exact he.trans (ih (fun f hf => hes f (List.mem_cons_of_mem _ hf)) (s.note e))

theorem openSink {s s' : Shell} {c : Channel} {target : Option Target} {sink : Sink}
    (h : s.openSink c target = .ok (s', sink)) : s.Noted [] s' := by
  obtain ⟨-, rfl, -⟩ | ⟨-, files, -, -, -, -, rfl⟩ := openSink_cases h
  · exact refl _
  · exact of_eq rfl rfl rfl rfl rfl

end Noted

end Shell

/-- A search notes the directories that it passes over, and nothing of more weight. -/
theorem Machine.level_searchIn (m : Machine) (name : String) (ds : List String) :
    ∀ e ∈ (m.searchIn name ds).1, e.level = .debug := by
  induction ds with
  | nil => exact fun e he => absurd he List.not_mem_nil
  | cons d ds ih =>
    unfold searchIn
    split
    · exact fun e he => absurd he List.not_mem_nil
    · exact ih
    · intro e he
      obtain rfl | he := List.mem_cons.mp he
      · rfl
      · exact ih e he
    · exact fun e he => absurd he List.not_mem_nil

theorem Machine.level_identify (m : Machine) (reserved : ReservedWords) (searchPath name : String) :
    ∀ e ∈ (m.identify reserved searchPath name).1, e.level = .debug := by
  unfold identify
  split
  · exact fun e he => absurd he List.not_mem_nil
  · exact fun e he => absurd he List.not_mem_nil
  · exact m.level_searchIn name _

namespace Shell

/-- Until its command is carried out a line writes nothing but its log. -/
theorem Dispatches.noted {s : Shell} {line : String} {plan : Plan} {identity : Identity} {j : Job}
    (h : s.Dispatches line plan identity j) : ∃ es, s.Noted es j.shell := by
  obtain ⟨-, ⟨ho, he⟩, hname⟩ := h
  have hopened := (Noted.openSink ho).trans (.openSink he)
  obtain ⟨es, hidentify, rfl⟩ := identify_eq hname
  have hes : ∀ e ∈ es, e.level = .debug := by
    rw [← show _ = es from congrArg Prod.fst hidentify]
    exact Machine.level_identify _ _ _ _
  exact ⟨_, (hopened.trans (.noteAll hes _)).trans (.note rfl _)⟩

end Shell

/-- A command writes nothing but its log, before it reports and hands over its bytes. -/
theorem Acts.noted {run : Runner} {plan : Plan} {s : Shell} {identity : Identity} {y : Yield}
    (h : Acts run plan s identity y) : ∃ es, s.Noted es y.shell := by
  have hlaunched : ∀ path, s.Noted [] (s.launched plan path) := fun _ => .of_eq rfl rfl rfl rfl rfl
  cases h with
  | reserved name message => exact ⟨[], .refl s⟩
  | printed => exact ⟨[], .refl s⟩
  | @moved m h =>
    have hmachine : s.Noted [] { s with
        machine := m
        session := { s.session with directory := s.session.destination plan.arguments } } :=
      .of_eq rfl rfl rfl rfl rfl
    exact ⟨_, hmachine.trans (.note rfl _)⟩
  | stayed h => exact ⟨_, .note rfl s⟩
  | @ended path done h => exact ⟨_, (hlaunched path).trans (.note rfl _)⟩
  | @unlaunched path f h => exact ⟨_, (hlaunched path).trans (.note rfl _)⟩
  | unknown name => exact ⟨[], .refl s⟩

/-! ## 3. Through the sinks -/

/-- What a stream of the process gets of the bytes for a sink. -/
def Sink.share (c : Channel) (data : Bytes) (s : Sink) : Bytes := if s = .stream c then data else []

namespace Shell

theorem stream_put (c d : Channel) (data : Bytes) (s : Shell) :
    (s.put d data).stream c = s.stream c ++ if d = c then data else [] := by
  cases c <;> cases d <;> simp [put, stream]

theorem stream_deliver (c : Channel) (sink : Sink) (data : Bytes) (s : Shell) :
    (s.deliver sink data).stream c = s.stream c ++ sink.share c data := by
  cases sink with
  | stream d => simp [deliver, stream_put, Sink.share]
  | file name h =>
    have hs : (s.deliver (.file name h) data).stream c = s.stream c := by cases c <;> rfl
    simp [hs, Sink.share]

theorem stream_release (c : Channel) (sink : Sink) (s : Shell) :
    (s.release sink).stream c = s.stream c := by
  unfold release
  split <;> cases c <;> rfl

/-- A stream of the process that at most one of the sinks is gets what is for that one. -/
theorem stream_settle {c : Channel} {output error : Sink}
    (h : output ≠ .stream c ∨ error ≠ .stream c) (o e : Bytes) (s : Shell) :
    (s.settle output o error e).stream c =
      s.stream c ++ (output.share c o ++ error.share c e) := by
  rw [settle, stream_release, stream_release, deliverBoth]
  split
  · rw [stream_deliver, stream_deliver, List.append_assoc]
    -- the two shares may come in either order, as one of them is empty
    rcases h with h | h <;> simp [Sink.share, h]
  · rw [stream_deliver, stream_deliver, List.append_assoc]

theorem events_deliver (sink : Sink) (data : Bytes) (s : Shell) :
    (s.deliver sink data).events = s.events := by
  rcases sink with c | _
  · cases c <;> rfl
  · rfl

theorem events_settle (output : Sink) (o : Bytes) (error : Sink) (e : Bytes) (s : Shell) :
    (s.settle output o error e).events = s.events := by
  have hrelease : ∀ (sink : Sink) (t : Shell), (t.release sink).events = t.events := by
    intro sink t
    unfold release
    split <;> rfl
  rw [settle, hrelease, hrelease, deliverBoth]
  split <;> rw [events_deliver, events_deliver]

/-- A sink is the stream of its own channel exactly when the channel is not redirected, and no other
    stream. -/
theorem openSink_stream {s s' : Shell} {c d : Channel} {target : Option Target} {sink : Sink}
    (h : s.openSink c target = .ok (s', sink)) : sink = .stream d ↔ c = d ∧ target = none := by
  obtain ⟨rfl, -, rfl⟩ | ⟨t, -, handle, rfl, rfl, -, -⟩ := openSink_cases h
  · cases c <;> cases d <;> decide
  · exact ⟨nofun, fun h => nomatch h.2⟩

/-- A stream of the process gets what is for its channel, if that is not redirected. -/
theorem Opens.stream_settle {s : Shell} {plan : Plan} {j : Job} (h : s.Opens plan j) (c : Channel)
    (o e : Bytes) (t : Shell) :
    (t.settle j.output o j.error e).stream c = t.stream c ++
      if plan.target? c = none then (match c with | .output => o | .error => e) else [] := by
  obtain @⟨_, _, output, error, ho, he⟩ := h
  have hone : output ≠ .stream c ∨ error ≠ .stream c := by
    cases c with
    | output => exact .inr fun heq => nomatch ((openSink_stream he).mp heq).1
    | error => exact .inl fun heq => nomatch ((openSink_stream ho).mp heq).1
  rw [Shell.stream_settle hone]
  cases c with
  | output =>
    by_cases hnone : plan.output = none <;>
      simp [Sink.share, openSink_stream ho, openSink_stream he, Plan.target?, hnone]
  | error =>
    by_cases hnone : plan.error = none <;>
      simp [Sink.share, openSink_stream ho, openSink_stream he, Plan.target?, hnone]

/-! ## 4. Bytes that arrive -/

section

variable {s : Shell} {plan : Plan} {j : Job}

/-- The sinks of a line have received these bytes, and no file has received anything else: in `t` a
    file has what the redirection leaves of it and then the bytes, a file of both sinks has those of
    both by the rule of `Target.met`, and a stream of the process ends with them. -/
structure Received (s : Shell) (plan : Plan) (j : Job) (o e : Bytes) (t : Shell) : Prop where
  output : ∀ l, j.output.object? = some (.file l) → j.error.object? ≠ some (.file l) →
    ∃ v, plan.output = some v ∧
      s.machine.files.Rewrites t.machine.files l (v.kept (s.fileAt l).content ++ o)
  error : ∀ l, j.output.object? ≠ some (.file l) → j.error.object? = some (.file l) →
    ∃ u, plan.error = some u ∧
      s.machine.files.Rewrites t.machine.files l (u.kept (s.fileAt l).content ++ e)
  both : ∀ l, j.output.object? = some (.file l) → j.error.object? = some (.file l) →
    ∃ v u, plan.output = some v ∧ plan.error = some u ∧
      s.machine.files.Rewrites t.machine.files l
        (if o.length ≤ bufferSize ∧ bufferSize < e.length then u.met v (s.fileAt l).content e o
        else v.met u (s.fileAt l).content o e)
  neither : ∀ l, j.output.object? ≠ some (.file l) → j.error.object? ≠ some (.file l) →
    t.machine.files.get? l = s.machine.files.get? l
  outputStream : plan.output = none → o <:+ t.output
  errorStream : plan.error = none → e <:+ t.error

/-- Sinks that have been opened and are settled have received their bytes. -/
theorem Opens.received (h : s.Opens plan j) {t : Shell} (hsame : j.shell.SameFiles t)
    (o e : Bytes) : s.Received plan j o e (t.settle j.output o j.error e) := by
  have houtput : (t.settle j.output o j.error e).output =
      t.output ++ if plan.output = none then o else [] := h.stream_settle .output o e t
  have herror : (t.settle j.output o j.error e).error =
      t.error ++ if plan.error = none then e else [] := h.stream_settle .error o e t
  obtain @⟨s₁, s₂, output, error, ho, he⟩ := h
  have hfirst := lands_of_openSink ho
  have hsecond := lands_of_openSink he
  have hfiles : t.machine.files = s₂.machine.files := hsame.files
  refine ⟨?_, ?_, ?_, ?_, ?_, ?_⟩
  · intro l hl hother
    obtain ⟨v, hv, -, hlands, hopened⟩ := hfirst.here hl
    have hkept : t.machine.files.get? l = s₁.machine.files.get? l := by
      rw [hfiles, hsecond.elsewhere hother]
    have hsettled := settle_output (o := o) (e := e) hlands hother (hkept.trans hopened)
    rw [landed_kept] at hsettled
    exact ⟨v, hv, hsettled⟩
  · intro l hother hl
    obtain ⟨u, hu, -, hlands, hopened⟩ := hsecond.here hl
    -- the error channel is opened on the tree that the output has left
    have hfile : s₁.machine.files.fileAt l = s.machine.files.fileAt l := by
      rw [Files.fileAt, Files.fileAt, hfirst.elsewhere hother]
    rw [Files.Rewrites, fileAt, hfile, ← hfiles] at hopened
    have hsettled := settle_error (o := o) (e := e) hother hlands hopened
    rw [landed_kept] at hsettled
    exact ⟨u, hu, hsettled⟩
  · intro l hl hl'
    obtain ⟨v, hv, -, hlands, hopened⟩ := hfirst.here hl
    obtain ⟨u, hu, -, hlands', hopened'⟩ := hsecond.here hl'
    rw [Files.Rewrites, fileAt, Files.fileAt_of_get? hopened, ← hfiles] at hopened'
    have hsettled := settle_both (o := o) (e := e) hlands hlands' hopened'
    -- once for each of the two that may land first
    rw [landed_landed, Target.kept_comm, landed_landed] at hsettled
    exact ⟨v, u, hv, hu, hsettled⟩
  · intro l hother hother'
    rw [settle_elsewhere hother hother', hfiles, hsecond.elsewhere hother', hfirst.elsewhere hother]
  · intro hnone
    rw [if_pos hnone] at houtput
    exact ⟨t.output, houtput.symm⟩
  · intro hnone
    rw [if_pos hnone] at herror
    exact ⟨t.error, herror.symm⟩

/-- What the sinks of a job have got does not depend on the shell at work. -/
theorem Received.withShell {o e : Bytes} {t : Shell} (h : s.Received plan j o e t) (u : Shell) :
    s.Received plan ⟨u, j.output, j.error⟩ o e t :=
  ⟨h.output, h.error, h.both, h.neither, h.outputStream, h.errorStream⟩

end

theorem Keeps.deliver (sink : Sink) (data : Bytes) (s : Shell) :
    s.Keeps (s.deliver sink data) := by
  cases sink with
  | stream c => exact .put c data s
  | file name h => exact .withFiles _ s

theorem Keeps.settle (output : Sink) (o : Bytes) (error : Sink) (e : Bytes) (s : Shell) :
    s.Keeps (s.settle output o error e) := by
  have hboth : s.Keeps (s.deliverBoth output o error e) := by
    unfold deliverBoth
    split <;> exact (Keeps.deliver _ _ _).trans (.deliver _ _ _)
  exact (hboth.trans (.release error _)).trans (.release output _)

/-! ## 5. A line -/

/-- A line whose sinks have taken their bytes, by what its command has come to: the sinks have what
    is handed over, the error stream of the process has the log and the report, and the streams have
    nothing else. The session, the place of the machine and the programs started are those that the
    command has left. -/
structure Routed (s : Shell) (plan : Plan) (j : Job) (y : Yield) (es : List Event) (t : Shell) :
    Prop where
  received : s.Received plan j y.output y.error t
  keeps : y.shell.Keeps t
  events : t.events = s.events ++ es
  debug : ∀ e ∈ es, e.level = .debug
  output : t.output = s.output ++ if plan.output = none then y.output else []
  error : t.error =
    s.error ++ s.logged es ++ y.report ++ if plan.error = none then y.error else []
  quiet : s.IsQuiet → s.logged es = []
  settled : t = (y.shell.put .error y.report).settle j.output y.output j.error y.error

variable {s : Shell} {line : String} {plan : Plan} {identity : Identity} {j : Job} {y : Yield}

/-- A job that is settled when its command has acted. -/
theorem Dispatches.routed_settle {es : List Event} (h : s.Dispatches line plan identity j)
    (hsame : j.shell.SameFiles y.shell) (hnoted : s.Noted es y.shell) :
    s.Routed plan j y es
      ((y.shell.put .error y.report).settle j.output y.output j.error y.error) := by
  obtain @⟨k, t, -, hopens, hname⟩ := h
  have hfiles : k.shell.SameFiles (y.shell.put .error y.report) :=
    (((SameFiles.identify hname).trans (.note _ _)).trans hsame).trans ⟨rfl, rfl⟩
  refine ⟨(hopens.received hfiles _ _).withShell _, (Keeps.put .error _ _).trans (.settle ..), ?_,
    hnoted.debug, ?_, ?_, fun hquiet => logged_of_quiet hquiet hnoted.debug, rfl⟩
  · rw [events_settle]
    exact hnoted.events
  · exact (hopens.stream_settle .output _ _ _).trans (congrArg (· ++ _) hnoted.output)
  · exact (hopens.stream_settle .error _ _ _).trans (congrArg (· ++ y.report ++ _) hnoted.error)

/-- A line whose sinks take what its command has for them. -/
theorem Dispatches.routed {run : Runner} (hrun : run.IsLawful)
    (h : s.Dispatches line plan identity j) (hacts : Acts run plan j.shell identity y)
    (ho : ¬ j.output.Refuses y.output) (he : ¬ j.error.Refuses y.error) :
    ∃ es t, s.execute run line = (t, none) ∧ s.Routed plan j y es t := by
  obtain ⟨z, hz, hperform⟩ := Job.perform_acts hrun plan identity j
  cases hacts.unique hz
  obtain ⟨es, hes⟩ := h.noted
  obtain ⟨fs, hfs⟩ := hacts.noted
  refine ⟨es ++ fs, (y.shell.put .error y.report).settle j.output y.output j.error y.error, ?_,
    h.routed_settle hacts.sameFiles (hes.trans hfs)⟩
  rw [execute_of_dispatches h, hperform]
  exact Job.finish_writes h.waiting.1 h.waiting.2 ho he

/-- **A line goes where its command says.** A line without a command changes nothing. Where the
    sinks of a line are open and its command is known, nothing but the log and the files has
    changed, and the command acts by the one rule for what its name stands for; unless a sink
    refuses its bytes, the line ends without a fault, each file of a redirection has what that
    leaves of its content and then what the rule hands over, no other file has changed, the error
    stream of the process has what the rule reports, and nothing else is written but the log. -/
theorem execute_routes {run : Runner} (hrun : run.IsLawful) (s : Shell) (line : String) :
    (Plan.ofLine? line = none → s.execute run line = (s, none)) ∧
      ∀ plan identity j, s.Dispatches line plan identity j →
        s.Keeps j.shell ∧ ∃ y, Acts run plan j.shell identity y ∧
          (¬ j.output.Refuses y.output → ¬ j.error.Refuses y.error →
            ∃ es t, s.execute run line = (t, none) ∧ s.Routed plan j y es t) := by
  constructor
  · intro hplan
    rw [execute, hplan]
  · intro plan identity j h
    obtain ⟨y, hacts, -⟩ := Job.perform_acts hrun plan identity j
    exact ⟨h.keeps, y, hacts, h.routed hrun hacts⟩

/-- A shell on a tree with a link, with the log that a shell has by default. -/
def recorded : Shell :=
  { linked with logger := ⟨some ⟨"default", "WARNING"⟩, [⟨.warning, .plain⟩]⟩ }

/-- A program with both channels redirected: what it writes to one stands behind what has been in
    the file, what it writes to the other is all there is in a new file, and the streams of the
    process have nothing. -/
theorem execute_routes_redirected :
    Runner.IsLawful wordy ∧ recorded.LogsByDefault ∧ ∃ t : Shell,
      recorded.execute wordy "x >> c 2> e" = (t, none) ∧ t.output = [] ∧ t.error = [] ∧
      t.machine.files.get? [⟨"c", by decide⟩] =
        some (.file { content := Bytes.ofText "old1234" }) ∧
      t.machine.files.get? [⟨"e", by decide⟩] = some (.file { content := Bytes.ofText "ab" }) ∧
      t.machine.files.get? [⟨"x", by decide⟩] = some (.file { executable := true }) := by
  have hlawful : Runner.IsLawful wordy := fun _ _ _ _ h => by cases h
  have hdefault : recorded.LogsByDefault := logsByDefault_iff.mpr rfl
  have hplan : Plan.ofLine? "x >> c 2> e" =
      some ⟨"x", [], some ⟨"c", true⟩, some ⟨"e", false⟩⟩ := by decide +kernel
  have hfirst : recorded.machine.files.openFile recorded.machine.place "c" true =
      .ok (recorded.machine.files, ⟨.file [⟨"c", by decide⟩], true, 0, []⟩) := by decide +kernel
  have hsecond : recorded.machine.files.openFile recorded.machine.place "e" false =
      .ok (recorded.machine.files.set [⟨"e", by decide⟩] (.file {}),
        ⟨.file [⟨"e", by decide⟩], false, 0, []⟩) := by decide +kernel
  have hopens : recorded.Opens ⟨"x", [], some ⟨"c", true⟩, some ⟨"e", false⟩⟩ _ :=
    .intro (openSink_of_openFile (by decide) hfirst _) (openSink_of_openFile (by decide) hsecond _)
  have hdispatches := Dispatches.intro hplan hopens
    (identify_of_machine [] (.ok (.external ⟨.root, [.down ⟨"x", by decide⟩]⟩)) (by decide +kernel))
  obtain ⟨-, hroutes⟩ := execute_routes hlawful recorded "x >> c 2> e"
  obtain ⟨-, y, hacts, hrouted⟩ := hroutes _ _ _ hdispatches
  cases hacts.unique (.ended rfl)
  obtain ⟨es, t, hexecute, ht⟩ := hrouted (fun h => by cases h.1) (fun h => by cases h.1)
  obtain ⟨v, hv, hoc⟩ := ht.received.output [⟨"c", by decide⟩] rfl (by decide)
  obtain ⟨u, hu, hoe⟩ := ht.received.error [⟨"e", by decide⟩] (by decide) rfl
  have hox := ht.received.neither [⟨"x", by decide⟩] (by decide) (by decide)
  cases hv
  cases hu
  refine ⟨hlawful, hdefault, t, hexecute, ht.output, ?_, ?_, ?_, ?_⟩
  · rw [ht.error, ht.quiet hdefault.isQuiet]
    rfl
  · rw [Files.Rewrites] at hoc
    rw [hoc]
    decide +kernel
  · rw [Files.Rewrites] at hoe
    rw [hoe]
    decide +kernel
  · rw [hox]
    decide +kernel

end Shell

end LineShell
