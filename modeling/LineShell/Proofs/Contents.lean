import LineShell.Proofs.Landing

/-!
# What is in the files after a line

* `Shell.Names` is the file that a redirection names before the line; `Shell.opens_of_namesFile`
  says that such redirections open on their files, and what is in the files when both are open;
* `Hands` are the bytes that a line has for its sinks, and `Shell.execute_arrives` says that these
  are all that arrives, however the line ends;
* `Shell.execute_contents` follows the content of each file from before the line to after it. It
  says of two redirections of one file, by whatever paths, what is left of their bytes.
-/

namespace LineShell

/-! ## 1. The sinks of a plan -/

namespace Shell

/-- The redirection names the regular file at `l`, or one that is not there yet. -/
structure Names (s : Shell) (t : Target) (l : Location) : Prop where
  clean : Machine.hasNul t.path = false
  named : s.machine.files.Names s.machine.place t.path l

/-- A channel is redirected to a regular file or to one that is not there yet, if at all. -/
def NamesFile (s : Shell) (target : Option Target) : Prop :=
  ∀ t, target = some t → ∃ l, s.Names t l

/-- A sink has been opened for a channel: on the file that the redirection names, if there is one,
    and nothing else has changed. -/
structure Redirects (s : Shell) (target : Option Target) (s' : Shell) (sink : Sink) : Prop where
  here : ∀ t l, target = some t → s.Names t l → sink.LandsAt l t.append ∧
    s.machine.files.Rewrites s'.machine.files l (t.kept (s.fileAt l).content)
  elsewhere : ∀ l, (∀ t, target = some t → ¬ s.Names t l) → sink.object? ≠ some (.file l) ∧
    s'.machine.files.get? l = s.machine.files.get? l
  names : ∀ t l, s.Names t l → s'.Names t l
  noDevice : ∀ d, sink.object? ≠ some (.device d)

variable {s : Shell} {plan : Plan} {j : Job} {target : Option Target}

theorem Names.unique {t : Target} {k l : Location} (h : s.Names t k) (h' : s.Names t l) : k = l :=
  h.named.unique h'.named

theorem namesFile_some {t : Target} {l : Location} (h : s.Names t l) : s.NamesFile (some t) := by
  intro u hu
  cases hu
  exact ⟨l, h⟩

/-- **A redirection that names a file opens**, and opens that file. -/
theorem redirects_of_namesFile (h : s.NamesFile target) (c : Channel) :
    ∃ s' sink, s.openSink c target = .ok (s', sink) ∧ s.Redirects target s' sink := by
  cases target with
  | none =>
    refine ⟨s, .stream (.ofLabel c.label), rfl, ⟨nofun, ?_, fun _ _ hnames => hnames, nofun⟩⟩
    exact fun _ _ => ⟨nofun, rfl⟩
  | some t =>
    obtain ⟨k, hk⟩ := h t rfl
    obtain ⟨files, hopen, hturns⟩ := Files.openFile_of_names hk.named
    refine ⟨_, _, openSink_of_openFile hk.clean hopen c, ⟨?_, ?_, ?_, nofun⟩⟩
    · intro u l hu hl
      cases hu
      cases hk.unique hl
      exact ⟨⟨t.path, [], rfl⟩, hturns.here⟩
    · intro l hl
      have hother : l ≠ k := fun heq => hl t rfl (heq ▸ hk)
      refine ⟨?_, hturns.elsewhere l hother⟩
      intro heq
      cases heq
      exact hother rfl
    · intro u l hu
      exact ⟨hu.clean, hu.named.turns hturns hk.named.takes⟩

/-- Where the sinks of a plan stand when both are open, and what is in the files then: a file that
    both redirections name has been opened twice. -/
structure Prepared (s : Shell) (plan : Plan) (j : Job) : Prop where
  output : ∀ t l, plan.output = some t → s.Names t l →
    (∀ u, plan.error = some u → ¬ s.Names u l) →
    j.output.LandsAt l t.append ∧ j.error.object? ≠ some (.file l) ∧
      s.machine.files.Rewrites j.shell.machine.files l (t.kept (s.fileAt l).content)
  error : ∀ u l, plan.error = some u → s.Names u l →
    (∀ t, plan.output = some t → ¬ s.Names t l) →
    j.error.LandsAt l u.append ∧ j.output.object? ≠ some (.file l) ∧
      s.machine.files.Rewrites j.shell.machine.files l (u.kept (s.fileAt l).content)
  both : ∀ t u l, plan.output = some t → plan.error = some u → s.Names t l → s.Names u l →
    j.output.LandsAt l t.append ∧ j.error.LandsAt l u.append ∧
      s.machine.files.Rewrites j.shell.machine.files l (u.kept (t.kept (s.fileAt l).content))
  neither : ∀ l, (∀ t, plan.output = some t → ¬ s.Names t l) →
    (∀ u, plan.error = some u → ¬ s.Names u l) →
    j.output.object? ≠ some (.file l) ∧ j.error.object? ≠ some (.file l) ∧
      j.shell.machine.files.get? l = s.machine.files.get? l
  noDevice : ∀ d, j.output.object? ≠ some (.device d) ∧ j.error.object? ≠ some (.device d)

/-- **Redirections that name files open**, each on its file. -/
theorem opens_of_namesFile (ho : s.NamesFile plan.output) (he : s.NamesFile plan.error) :
    ∃ j, s.Opens plan j ∧ s.Prepared plan j := by
  obtain ⟨s₁, output, hopen, hfirst⟩ := redirects_of_namesFile ho .output
  have he₁ : s₁.NamesFile plan.error := by
    intro u hu
    obtain ⟨l, hl⟩ := he u hu
    exact ⟨l, hfirst.names u l hl⟩
  -- a file that the error channel does not name, it does not name in the first sink's tree either
  have hnot : ∀ l, (∀ u, plan.error = some u → ¬ s.Names u l) →
      ∀ u, plan.error = some u → ¬ s₁.Names u l := by
    intro l hl u hu hnames
    obtain ⟨k, hk⟩ := he u hu
    cases (hfirst.names u k hk).unique hnames
    exact hl u hu hk
  obtain ⟨s₂, error, hopen', hsecond⟩ := redirects_of_namesFile he₁ .error
  refine ⟨⟨s₂, output, error⟩, .intro hopen hopen', ?_, ?_, ?_, ?_, ?_⟩
  · intro t l ht hl hother
    obtain ⟨hlands, hopened⟩ := hfirst.here t l ht hl
    obtain ⟨hobject, hsame⟩ := hsecond.elsewhere l (hnot l hother)
    exact ⟨hlands, hobject, hsame.trans hopened⟩
  · intro u l hu hl hother
    obtain ⟨hobject, hsame⟩ := hfirst.elsewhere l hother
    obtain ⟨hlands, hopened⟩ := hsecond.here u l hu (hfirst.names u l hl)
    have hfile : s₁.machine.files.fileAt l = s.machine.files.fileAt l := by
      rw [Files.fileAt, Files.fileAt, hsame]
    rw [Files.Rewrites, fileAt, hfile] at hopened
    exact ⟨hlands, hobject, hopened⟩
  · intro t u l ht hu hl hl'
    obtain ⟨hlands, hopened⟩ := hfirst.here t l ht hl
    obtain ⟨hlands', hopened'⟩ := hsecond.here u l hu (hfirst.names u l hl')
    have hfile := Files.fileAt_of_get? hopened
    rw [Files.Rewrites, fileAt, hfile] at hopened'
    exact ⟨hlands, hlands', hopened'⟩
  · intro l hl hl'
    obtain ⟨hobject, hsame⟩ := hfirst.elsewhere l hl
    obtain ⟨hobject', hsame'⟩ := hsecond.elsewhere l (hnot l hl')
    exact ⟨hobject, hobject', hsame'.trans hsame⟩
  · exact fun d => ⟨hfirst.noDevice d, hsecond.noDevice d⟩

end Shell

/-! ## 2. What a line hands over -/

/-- The bytes that a line has for its sinks: those of its command, and none when the search for the
    command fails. -/
inductive Hands (run : Runner) (s : Shell) (line : String) (plan : Plan) :
    Bytes → Bytes → Prop where
  | searchFailed {j : Job} {t : Shell} {f : Fault} (hopens : s.Opens plan j)
      (hname : j.shell.identify plan.command = (t, .error f)) : Hands run s line plan [] []
  | acted {identity : Identity} {j : Job} {y : Yield} (h : s.Dispatches line plan identity j)
      (hacts : Acts run plan j.shell identity y) : Hands run s line plan y.output y.error

/-- A line hands over the same bytes by whatever rule. -/
theorem Hands.unique {run : Runner} {s : Shell} {line : String} {plan : Plan} {o e o' e' : Bytes}
    (h : Hands run s line plan o e) (k : Hands run s line plan o' e') : o = o' ∧ e = e' := by
  cases h with
  | searchFailed hopens hname =>
    cases k with
    | searchFailed hopens' hname' => exact ⟨rfl, rfl⟩
    | acted h' hacts' =>
      obtain ⟨-, hopens', hname'⟩ := h'
      cases hopens.unique hopens'
      cases hname.symm.trans hname'
  | acted h hacts =>
    obtain ⟨-, hopens, hname⟩ := h
    cases k with
    | searchFailed hopens' hname' =>
      cases hopens.unique hopens'
      cases hname.symm.trans hname'
    | acted h' hacts' =>
      obtain ⟨-, hopens', hname'⟩ := h'
      cases hopens.unique hopens'
      cases hname.symm.trans hname'
      cases hacts.unique hacts'
      exact ⟨rfl, rfl⟩

/-- No file has been opened, closed or written to on the way from `s` to `t`. -/
structure Shell.SameFiles (s t : Shell) : Prop where
  files : t.machine.files = s.machine.files
  uses : t.machine.uses = s.machine.uses

namespace Shell.SameFiles

theorem refl (s : Shell) : s.SameFiles s := ⟨rfl, rfl⟩

theorem trans {s t u : Shell} (h : s.SameFiles t) (k : t.SameFiles u) : s.SameFiles u :=
  ⟨k.files.trans h.files, k.uses.trans h.uses⟩

theorem note (e : Event) (s : Shell) : s.SameFiles (s.note e) := ⟨rfl, rfl⟩

theorem noteAll (es : List Event) (s : Shell) : s.SameFiles (s.noteAll es) := by
  induction es generalizing s with
  | nil => exact refl s
  | cons e es ih => exact (note e s).trans (ih (s.note e))

theorem identify {s t : Shell} {name : String} {answer : Except Fault Identity}
    (h : s.identify name = (t, answer)) : s.SameFiles t := by
  obtain ⟨es, -, rfl⟩ := identify_eq h
  exact noteAll es s

end Shell.SameFiles

/-- A command leaves the files as they are, until its bytes arrive. -/
theorem Acts.sameFiles {run : Runner} {plan : Plan} {s : Shell} {identity : Identity} {y : Yield}
    (h : Acts run plan s identity y) : s.SameFiles y.shell := by
  cases h with
  | moved h =>
    obtain ⟨place, rfl⟩ := Machine.chdir_eq_ok h
    exact ⟨rfl, rfl⟩
  | _ => exact ⟨rfl, rfl⟩

namespace Job

variable {s : Shell} {output error : Sink}

/-- The end of a job in which nothing has been written. -/
theorem finish_unwritten (ho : output.waiting = []) (he : error.waiting = [])
    (fault : Option Fault) :
    (finish (⟨s, output, error⟩, fault)).1 = s.settle output [] error [] := by
  rw [fst_finish, ho, he, Shell.deliver_nil, Shell.deliver_nil, Shell.settle,
    Shell.deliverBoth_error (Shell.deliver_nil output), Shell.deliver_nil]

/-- A program that cannot be run for reasons that nothing handles: the job goes no further. -/
theorem runProgram_of_error {run : Runner} {plan : Plan} {path : Path} {j : Job} {f : Fault}
    (hf : run j.shell.machine (plan.command :: plan.arguments) path = .error f)
    (hother : f.isLaunchFailure = false) :
    j.runProgram run plan path = (j.onShell (·.launched plan path), some f) := by
  unfold runProgram onShell
  dsimp only
  rw [hf]
  simp only [hother, Bool.false_eq_true, if_false]
  rfl

end Job

/-! ## 3. The end of a line -/

namespace Shell

variable {s : Shell} {line : String} {plan : Plan} {j : Job}

/-- A line whose command is known: the command acts and its bytes arrive, or a program fails for
    reasons that nothing handles, and no bytes are there. -/
theorem Dispatches.arrives (run : Runner) {identity : Identity}
    (h : s.Dispatches line plan identity j) :
    ∃ (o e : Bytes) (t : Shell), Hands run s line plan o e ∧ j.shell.SameFiles t ∧
      (s.execute run line).1 =
        t.settle j.output o j.error (if j.output.Stops o then [] else e) := by
  obtain ⟨hwo, hwe⟩ := h.waiting
  rw [execute_of_dispatches h]
  by_cases hfails : ∃ path f, identity = .external path ∧
      run j.shell.machine (plan.command :: plan.arguments) path = .error f ∧
        f.isLaunchFailure = false
  · obtain ⟨path, f, rfl, hf, hother⟩ := hfails
    have hperform : j.perform run plan (.external path) =
        (⟨j.shell.launched plan path, j.output, j.error⟩, some f) :=
      Job.runProgram_of_error hf hother
    refine ⟨[], [], j.shell.launched plan path, .acted h (.unlaunched hf), ⟨rfl, rfl⟩, ?_⟩
    rw [hperform, Job.finish_unwritten hwo hwe, ite_self]
  · have hlawful : ∀ path f, identity = .external path →
        run j.shell.machine (plan.command :: plan.arguments) path = .error f →
          f.isLaunchFailure = true := by
      intro path f hidentity hf
      refine eq_true_of_ne_false ?_
      intro hother
      exact hfails ⟨path, f, hidentity, hf, hother⟩
    obtain ⟨y, hacts, hperform⟩ := Job.perform_acts_of hlawful
    have hreported : y.shell.SameFiles (y.shell.put .error y.report) := ⟨rfl, rfl⟩
    refine ⟨y.output, y.error, y.shell.put .error y.report, .acted h hacts,
      hacts.sameFiles.trans hreported, ?_⟩
    rw [hperform, Yield.handOver, Job.fst_finish_writes hwo hwe]

/-- **All that arrives is what the line hands over**, however the line ends: the sinks are closed
    after a search that has failed as well. Only an output that refuses its bytes at once keeps the
    errors back. -/
theorem execute_arrives (run : Runner) (hplan : Plan.ofLine? line = some plan)
    (hopens : s.Opens plan j) :
    ∃ (o e : Bytes) (t : Shell), Hands run s line plan o e ∧ j.shell.SameFiles t ∧
      (s.execute run line).1 =
        t.settle j.output o j.error (if j.output.Stops o then [] else e) := by
  obtain ⟨hwo, hwe⟩ := hopens.waiting
  cases hname : j.shell.identify plan.command with
  | mk t answer =>
    have hsame := SameFiles.identify hname
    cases answer with
    | error f =>
      refine ⟨[], [], t, .searchFailed hopens hname, hsame, ?_⟩
      rw [execute_of_opens hplan hopens, Job.work, hname, ite_self]
      exact Job.finish_unwritten hwo hwe (some f)
    | ok identity =>
      have h := Dispatches.intro hplan hopens hname
      obtain ⟨o, e, u, hhands, hu, hexecute⟩ := h.arrives run
      exact ⟨o, e, u, hhands, (hsame.trans (.note _ t)).trans hu, hexecute⟩

/-- A line whose output takes everything. -/
theorem execute_settles (run : Runner) (hplan : Plan.ofLine? line = some plan)
    (hopens : s.Opens plan j) (ho : j.output.object? ≠ some (.device .full)) :
    ∃ (o e : Bytes) (t : Shell), Hands run s line plan o e ∧
      t.machine.files = j.shell.machine.files ∧
      (s.execute run line).1 = t.settle j.output o j.error e := by
  obtain ⟨o, e, t, hhands, hsame, hexecute⟩ := execute_arrives run hplan hopens
  have htakes : ¬ j.output.Stops o := fun h => ho h.1.1
  rw [if_neg htakes] at hexecute
  exact ⟨o, e, t, hhands, hsame.files, hexecute⟩

/-- **What is in the files after a line** whose redirections name files, there or not yet. A file
    that one of them names has what the redirection leaves of its content, and then the bytes of the
    command for that sink. A file that both name, by whatever paths, has the output and then the
    errors, by the rule of `Target.met`; only errors that do not fit into their buffer get ahead of
    an output that does. Every other location is what it was. -/
theorem execute_contents (run : Runner) (hplan : Plan.ofLine? line = some plan)
    (ho : s.NamesFile plan.output) (he : s.NamesFile plan.error) :
    ∃ o e, Hands run s line plan o e ∧
      (∀ t l, plan.output = some t → s.Names t l → (∀ u, plan.error = some u → ¬ s.Names u l) →
        s.machine.files.Rewrites (s.execute run line).1.machine.files l
          (t.kept (s.fileAt l).content ++ o)) ∧
      (∀ u l, plan.error = some u → s.Names u l → (∀ t, plan.output = some t → ¬ s.Names t l) →
        s.machine.files.Rewrites (s.execute run line).1.machine.files l
          (u.kept (s.fileAt l).content ++ e)) ∧
      (∀ t u l, plan.output = some t → plan.error = some u → s.Names t l → s.Names u l →
        s.machine.files.Rewrites (s.execute run line).1.machine.files l
          (if o.length ≤ bufferSize ∧ bufferSize < e.length
          then u.met t (s.fileAt l).content e o
          else t.met u (s.fileAt l).content o e)) ∧
      ∀ l, (∀ t, plan.output = some t → ¬ s.Names t l) →
        (∀ u, plan.error = some u → ¬ s.Names u l) →
        (s.execute run line).1.machine.files.get? l = s.machine.files.get? l := by
  obtain ⟨j, hopens, hprepared⟩ := opens_of_namesFile ho he
  obtain ⟨hdevice, -⟩ := hprepared.noDevice .full
  obtain ⟨o, e, v, hhands, hfiles, hexecute⟩ := execute_settles run hplan hopens hdevice
  rw [hexecute]
  refine ⟨o, e, hhands, ?_, ?_, ?_, ?_⟩
  · intro t l ht hl hother
    obtain ⟨hlands, hobject, hopened⟩ := hprepared.output t l ht hl hother
    rw [← hfiles] at hopened
    have hsettled := settle_output (o := o) (e := e) hlands hobject hopened
    rw [landed_kept] at hsettled
    exact hsettled
  · intro u l hu hl hother
    obtain ⟨hlands, hobject, hopened⟩ := hprepared.error u l hu hl hother
    rw [← hfiles] at hopened
    have hsettled := settle_error (o := o) (e := e) hobject hlands hopened
    rw [landed_kept] at hsettled
    exact hsettled
  · intro t u l ht hu hl hl'
    obtain ⟨hlands, hlands', hopened⟩ := hprepared.both t u l ht hu hl hl'
    rw [← hfiles] at hopened
    have hsettled := settle_both (o := o) (e := e) hlands hlands' hopened
    rw [landed_landed, Target.kept_comm, landed_landed] at hsettled
    exact hsettled
  · intro l hl hl'
    obtain ⟨hobject, hobject', hsame⟩ := hprepared.neither l hl hl'
    rw [settle_elsewhere hobject hobject', hfiles, hsame]

/-- A shell above a program, a file and a link to that file. -/
def linked : Shell where
  machine :=
    { files := ⟨[([⟨"x", by decide⟩], .file { executable := true }),
        ([⟨"d", by decide⟩], .directory),
        ([⟨"c", by decide⟩], .file { content := Bytes.ofText "old" }),
        ([⟨"l", by decide⟩], .link "d/../c")]⟩ }
  searchPath := "/"

/-- A program that writes to both channels. -/
def wordy : Runner := fun _ _ _ => .ok ⟨Bytes.ofText "1234", Bytes.ofText "ab", 0⟩

/-- Both channels go to one file, the output by a link: the errors stand over the beginning of the
    output. The file that a later redirection has taken the place of is not created. -/
theorem execute_contents_through_link :
    (linked.execute wordy "x > a >> l 2> c").1.machine.files.get? [⟨"c", by decide⟩] =
        some (.file { content := Bytes.ofText "ab34" }) ∧
      (linked.execute wordy "x > a >> l 2> c").1.machine.files.get? [⟨"a", by decide⟩] = none := by
  have hplan : Plan.ofLine? "x > a >> l 2> c" =
      some ⟨"x", [], some ⟨"l", true⟩, some ⟨"c", false⟩⟩ := by decide +kernel
  have hfirst : linked.machine.files.openFile linked.machine.place "l" true =
      .ok (linked.machine.files, ⟨.file [⟨"c", by decide⟩], true, 0, []⟩) := by decide +kernel
  have hsecond : linked.machine.files.openFile linked.machine.place "c" false =
      .ok (linked.machine.files.set [⟨"c", by decide⟩] (.file {}),
        ⟨.file [⟨"c", by decide⟩], false, 0, []⟩) := by decide +kernel
  have hopens : linked.Opens ⟨"x", [], some ⟨"l", true⟩, some ⟨"c", false⟩⟩ _ :=
    .intro (openSink_of_openFile (by decide) hfirst _) (openSink_of_openFile (by decide) hsecond _)
  have hl : linked.Names ⟨"l", true⟩ [⟨"c", by decide⟩] :=
    ⟨by decide, .found ⟨[⟨"c", by decide⟩], 0⟩, by decide +kernel, .file rfl⟩
  have hc : linked.Names ⟨"c", false⟩ [⟨"c", by decide⟩] :=
    ⟨by decide, .found ⟨[⟨"c", by decide⟩], 0⟩, by decide +kernel, .file rfl⟩
  obtain ⟨o, e, hhands, -, -, hboth, hothers⟩ :=
    execute_contents wordy hplan (namesFile_some hl) (namesFile_some hc)
  have hdispatches := Dispatches.intro hplan hopens
    (identify_of_machine [] (.ok (.external ⟨.root, [.down ⟨"x", by decide⟩]⟩)) (by decide +kernel))
  obtain ⟨rfl, rfl⟩ := hhands.unique (.acted hdispatches (.ended rfl))
  have hwritten := hboth _ _ _ rfl rfl hl hc
  have hother : ∀ v, linked.Names v [⟨"c", by decide⟩] →
      ∀ t, some v = some t → ¬ linked.Names t [⟨"a", by decide⟩] := by
    intro v hv t ht ha
    cases ht
    have hdifferent : ([⟨"c", by decide⟩] : Location) ≠ [⟨"a", by decide⟩] := by decide
    exact hdifferent (hv.unique ha)
  rw [Files.Rewrites] at hwritten
  rw [hwritten, hothers _ (hother _ hl) (hother _ hc)]
  decide +kernel

end Shell

end LineShell
