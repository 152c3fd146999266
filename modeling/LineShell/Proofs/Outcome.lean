import LineShell.Proofs.Delivery

/-!
# What a line comes to

The rules of a line and of the command it names, without the sinks: which bytes a command hands
over, and how far a line gets.

* `Acts` has one rule for each thing that a command can come to; `Job.perform_acts` says that a
  command acts by these rules, and hands its bytes to its sinks;
* `Machine.identify_builtin_iff` and `Machine.identify_of_not_builtin`: the built-ins go by their
  names, and the search path is asked for the others;
* `Shell.Opens` and `Shell.Dispatches`: the sinks of a line are open; its command is known;
* `Ends` has one rule for each point a line can get to, and `Shell.execute_ends` says that these are
  all. What is proved about a line is proved by these rules, and nothing opens `Shell.execute`
  again.
-/

namespace LineShell

/-! ## 1. Runners -/

/-- The runner ends in no other faults than those that starting a process may end in. -/
def Runner.IsLawful (run : Runner) : Prop :=
  ∀ m commandLine path f, run m commandLine path = .error f → f.isLaunchFailure = true

/-- Running executables on the machine is lawful. -/
theorem Machine.isLawful_launch : Runner.IsLawful Machine.launch := by
  intro m commandLine path f h
  unfold Machine.launch at h
  split at h
  · cases h
    rfl
  · split at h
    · cases h
    · cases h
      rfl

/-- Entering a directory changes the place of the machine and nothing else. -/
theorem Machine.chdir_eq_ok {m m' : Machine} {path : Path} (h : m.chdir path = .ok m') :
    ∃ place, m' = { m with place } := by
  unfold chdir at h
  split at h
  · cases h
  · split at h
    · cases h
      exact ⟨_, rfl⟩
    · cases h

/-- A directory that cannot be entered is refused. -/
theorem Machine.isRefusal_of_chdir {m : Machine} {path : Path} {f : Fault}
    (h : m.chdir path = .error f) : f.isRefusal = true := by
  unfold Machine.chdir at h
  split at h
  · cases h
    rfl
  · split at h
    · cases h
    · cases h
      rfl

/-! ## 2. What a command comes to -/

/-- What a command has come to: the shell it leaves, a report on the error stream of the process,
    and the bytes for its two sinks. -/
structure Yield where
  shell : Shell
  report : Bytes := []
  output : Bytes := []
  error : Bytes := []

/-- The directory that the arguments of `cd` ask for. -/
def Session.destination (s : Session) (arguments : List String) : Path :=
  s.resolve (s.target arguments)

/-- The shell in another directory: the machine has entered it, and the session follows. -/
def Shell.arrive (m : Machine) (d : Path) (s : Shell) : Shell :=
  { s with machine := m, session := { s.session with directory := d } }.note (.moved d)

/-- The shell after a program was started. -/
def Shell.launched (plan : Plan) (path : Path) (s : Shell) : Shell :=
  { s with launches := s.launches ++ [⟨plan.command :: plan.arguments, path⟩] }

/-- What a command comes to, by what its name stands for and by what the system answers. -/
inductive Acts (run : Runner) (plan : Plan) (s : Shell) : Identity → Yield → Prop where
  /-- A reserved word says so on the output. -/
  | reserved (name message : String) :
      Acts run plan s (.reserved name message) ⟨s, [], Bytes.ofLine message, []⟩
  /-- `pwd` writes the directory of the session on the output. -/
  | printed :
      Acts run plan s (.builtin .printDirectory)
        ⟨s, [], Bytes.ofLine s.session.directory.text, []⟩
  /-- `cd` into a directory that can be entered: the shell is there, and the output says so. -/
  | moved {m : Machine} (h : s.machine.chdir (s.session.destination plan.arguments) = .ok m) :
      Acts run plan s (.builtin .changeDirectory)
        ⟨s.arrive m (s.session.destination plan.arguments), [],
          Bytes.ofLine ("Changed directory to: " ++ (s.session.destination plan.arguments).text),
          []⟩
  /-- `cd` into any other: the shell stays, and the output has the reason. -/
  | stayed {f : Fault} (h : s.machine.chdir (s.session.destination plan.arguments) = .error f) :
      Acts run plan s (.builtin .changeDirectory)
        ⟨s.note (.moveRefused (s.session.target plan.arguments) (moveReason f)), [],
          Bytes.ofLine ("cd: " ++ s.session.target plan.arguments ++ ": " ++ moveReason f), []⟩
  /-- A program that ends, whatever its status: its bytes go to the sinks. -/
  | ended {path : Path} {done : Completed}
      (h : run s.machine (plan.command :: plan.arguments) path = .ok done) :
      Acts run plan s (.external path)
        ⟨(s.launched plan path).note (.ended plan.command done.status), [], done.output,
          done.error⟩
  /-- A program that cannot be run: a report, and nothing for the sinks. -/
  | unlaunched {path : Path} {f : Fault}
      (h : run s.machine (plan.command :: plan.arguments) path = .error f) :
      Acts run plan s (.external path)
        ⟨(s.launched plan path).note (.launchRefused path f),
          Bytes.ofLine (path.displayName ++ ": " ++ f.reason), [], []⟩
  /-- A name that nothing stands behind: a report, and nothing for the sinks. -/
  | unknown (name : String) :
      Acts run plan s (.notFound name)
        ⟨s, Bytes.ofLine (name ++ ": command not found"), [], []⟩

/-- The rules leave nothing open. -/
theorem Acts.unique {run : Runner} {plan : Plan} {s : Shell} {identity : Identity} {y z : Yield}
    (hy : Acts run plan s identity y) (hz : Acts run plan s identity z) : y = z := by
  cases hy with
  | reserved name message => cases hz; rfl
  | printed => cases hz; rfl
  | moved h =>
    cases hz with
    | moved k => cases h.symm.trans k; rfl
    | stayed k => cases h.symm.trans k
  | stayed h =>
    cases hz with
    | moved k => cases h.symm.trans k
    | stayed k => cases h.symm.trans k; rfl
  | ended h =>
    cases hz with
    | ended k => cases h.symm.trans k; rfl
    | unlaunched k => cases h.symm.trans k
  | unlaunched h =>
    cases hz with
    | ended k => cases h.symm.trans k
    | unlaunched k => cases h.symm.trans k; rfl
  | unknown name => cases hz; rfl

/-- What a command has come to is handed to the sinks of the job, the output first. -/
def Yield.handOver (y : Yield) (output error : Sink) : Job × Option Fault :=
  Job.andThen (Job.write .output y.output ⟨y.shell.put .error y.report, output, error⟩)
    (Job.write .error y.error)

namespace Job

theorem andThen_write_nil (r : Job × Option Fault) (c : Channel) :
    andThen r (write c []) = r := by
  obtain ⟨j, fault⟩ := r
  cases fault <;> rfl

/-- A command that only has bytes for its output. -/
theorem handOver_output (s : Shell) (data : Bytes) (output error : Sink) :
    (Yield.mk s [] data []).handOver output error = write .output data ⟨s, output, error⟩ := by
  have hput : s.put .error [] = s := Shell.deliver_nil (.stream .error) s
  rw [Yield.handOver, hput, andThen_write_nil]

/-- A command that only has something to report. -/
theorem handOver_report (s : Shell) (message : String) (output error : Sink) :
    (Yield.mk s (Bytes.ofLine message) [] []).handOver output error =
      (⟨s.report message, output, error⟩, none) := rfl

/-- `cd` into a directory that can be entered writes one line, from there. -/
theorem changeDirectory_of_ok {arguments : List String} {j : Job} {m : Machine}
    (hm : j.shell.machine.chdir (j.shell.session.destination arguments) = .ok m) :
    j.changeDirectory Machine.chdir arguments =
      writeLine ("Changed directory to: " ++ (j.shell.session.destination arguments).text)
        { j with shell := j.shell.arrive m (j.shell.session.destination arguments) } := by
  unfold changeDirectory Shell.move
  dsimp only
  rw [show j.shell.session.resolve (j.shell.session.target arguments) =
    j.shell.session.destination arguments from rfl, hm]
  rfl

/-- `cd` into any other writes one line, from where it is. -/
theorem changeDirectory_of_error {arguments : List String} {j : Job} {f : Fault}
    (hm : j.shell.machine.chdir (j.shell.session.destination arguments) = .error f) :
    j.changeDirectory Machine.chdir arguments =
      writeLine ("cd: " ++ j.shell.session.target arguments ++ ": " ++ moveReason f)
        { j with
          shell :=
            j.shell.note (.moveRefused (j.shell.session.target arguments) (moveReason f)) } := by
  unfold changeDirectory Shell.move
  dsimp only
  rw [show j.shell.session.resolve (j.shell.session.target arguments) =
    j.shell.session.destination arguments from rfl, hm]
  simp only [Machine.isRefusal_of_chdir hm, if_true]
  rfl

theorem changeDirectory_acts (run : Runner) (plan : Plan) (j : Job) :
    ∃ y, Acts run plan j.shell (.builtin .changeDirectory) y ∧
      j.changeDirectory Machine.chdir plan.arguments = y.handOver j.output j.error := by
  cases hm : j.shell.machine.chdir (j.shell.session.destination plan.arguments) with
  | ok m =>
    refine ⟨_, .moved hm, ?_⟩
    rw [handOver_output]
    exact changeDirectory_of_ok hm
  | error f =>
    refine ⟨_, .stayed hm, ?_⟩
    rw [handOver_output]
    exact changeDirectory_of_error hm

theorem runProgram_acts {run : Runner} {plan : Plan} {path : Path} {j : Job}
    (hrun : ∀ f, run j.shell.machine (plan.command :: plan.arguments) path = .error f →
      f.isLaunchFailure = true) :
    ∃ y, Acts run plan j.shell (.external path) y ∧
      j.runProgram run plan path = y.handOver j.output j.error := by
  cases hr : run j.shell.machine (plan.command :: plan.arguments) path with
  | ok done =>
    refine ⟨_, .ended hr, ?_⟩
    unfold runProgram onShell
    dsimp only
    rw [hr]
    have hput : ∀ s : Shell, s.put .error [] = s := Shell.deliver_nil (.stream .error)
    rw [Yield.handOver, hput]
    rfl
  | error f =>
    refine ⟨_, .unlaunched hr, ?_⟩
    rw [handOver_report]
    unfold runProgram onShell
    dsimp only
    rw [hr]
    simp only [hrun f hr, if_true]
    rfl

/-- A command acts by the rules, if the program that it runs cannot fail in any other way. -/
theorem perform_acts_of {run : Runner} {plan : Plan} {identity : Identity} {j : Job}
    (hrun : ∀ path f, identity = .external path →
      run j.shell.machine (plan.command :: plan.arguments) path = .error f →
        f.isLaunchFailure = true) :
    ∃ y, Acts run plan j.shell identity y ∧
      j.perform run plan identity = y.handOver j.output j.error := by
  cases identity with
  | reserved name message => exact ⟨_, .reserved name message, (handOver_output _ _ _ _).symm⟩
  | builtin b =>
    cases b with
    | changeDirectory => exact changeDirectory_acts run plan j
    | printDirectory => exact ⟨_, .printed, (handOver_output _ _ _ _).symm⟩
  | external path => exact runProgram_acts fun f hf => hrun path f rfl hf
  | notFound name => exact ⟨_, .unknown name, rfl⟩

/-- **A command acts by the rules**, and hands over what it has come to. -/
theorem perform_acts {run : Runner} (hrun : run.IsLawful) (plan : Plan) (identity : Identity)
    (j : Job) :
    ∃ y, Acts run plan j.shell identity y ∧
      j.perform run plan identity = y.handOver j.output j.error :=
  perform_acts_of fun path f _ hf => hrun _ _ path f hf

end Job

/-! ## 3. What a name stands for -/

namespace Machine

variable {m : Machine} {searchPath name : String}

theorem identify_of_builtin {b : Builtin} (h : Builtin.ofName? name = some b) :
    m.identify reservedWords searchPath name = ([], .ok (.builtin b)) := by
  rw [identify, h]

/-- A name that is no built-in is no reserved word either. -/
theorem lookup_reservedWords {name : String} (h : Builtin.ofName? name = none) :
    reservedWords.lookup name = none := by
  have hcd : (name == "cd") = false := by
    refine beq_eq_false_iff_ne.mpr ?_
    intro heq
    subst heq
    cases h
  have hpwd : (name == "pwd") = false := by
    refine beq_eq_false_iff_ne.mpr ?_
    intro heq
    subst heq
    cases h
  simp [reservedWords, Builtin.all, Builtin.name, List.lookup_cons, hcd, hpwd]

/-- The search path is asked for every name that is no built-in. -/
theorem identify_of_not_builtin (h : Builtin.ofName? name = none) :
    m.identify reservedWords searchPath name =
      ((m.search searchPath name).1, (m.search searchPath name).2.map fun
        | some path => .external path
        | none => .notFound name) := by
  rewrite [identify, h, lookup_reservedWords h]
  rfl

/-- What a name stands for is a built-in exactly when it is the name of one. -/
theorem identify_builtin_iff {es : List Event} {identity : Identity}
    (h : m.identify reservedWords searchPath name = (es, .ok identity)) (b : Builtin) :
    identity = .builtin b ↔ name = b.name := by
  cases hb : Builtin.ofName? name with
  | some b' =>
    rw [identify_of_builtin hb] at h
    cases h
    have hname : (b'.name == name) = true :=
      List.find?_some (p := fun b : Builtin => b.name == name) hb
    rw [← beq_iff_eq.mp hname]
    cases b <;> cases b' <;> decide
  | none =>
    have hother : name ≠ b.name := by
      intro heq
      subst heq
      cases b <;> cases hb
    refine iff_of_false ?_ hother
    intro heq
    subst heq
    rw [identify_of_not_builtin hb] at h
    cases hs : (m.search searchPath name).2 with
    | error f =>
      rw [hs] at h
      cases h
    | ok found =>
      rw [hs] at h
      cases found <;> cases h

end Machine

/-! ## 4. How far a line gets -/

/-- Both sinks of a plan open, the output first; the job is the shell with the two. -/
inductive Shell.Opens (s : Shell) (plan : Plan) : Job → Prop where
  | intro {s₁ s₂ : Shell} {output error : Sink}
      (ho : s.openSink .output plan.output = .ok (s₁, output))
      (he : s₁.openSink .error plan.error = .ok (s₂, error)) : s.Opens plan ⟨s₂, output, error⟩

/-- The line comes to carry out a command: it has a plan, the sinks open, and it is known what the
    command name stands for then. -/
inductive Shell.Dispatches (s : Shell) (line : String) (plan : Plan) (identity : Identity) :
    Job → Prop where
  | intro {j : Job} {t : Shell} (hplan : Plan.ofLine? line = some plan) (hopens : s.Opens plan j)
      (hname : j.shell.identify plan.command = (t, .ok identity)) :
      s.Dispatches line plan identity
        ⟨t.note (.resolved plan.command identity.kind j.output.name j.error.name), j.output,
          j.error⟩

/-- Where a line ends, and in which fault. -/
inductive Ends (run : Runner) (s : Shell) (line : String) : Shell × Option Fault → Prop where
  /-- The line has no command. -/
  | idle (hplan : Plan.ofLine? line = none) : Ends run s line (s, none)
  /-- The output cannot be opened. -/
  | outputRefused {plan : Plan} {r : SinkRefusal} (hplan : Plan.ofLine? line = some plan)
      (ho : s.openSink .output plan.output = .error r) : Ends run s line (s.refuse line r, none)
  /-- The error channel cannot be opened; the output is closed again. -/
  | errorRefused {plan : Plan} {s₁ : Shell} {output : Sink} {r : SinkRefusal}
      (hplan : Plan.ofLine? line = some plan)
      (ho : s.openSink .output plan.output = .ok (s₁, output))
      (he : s₁.openSink .error plan.error = .error r) :
      Ends run s line ((s₁.refuse line r).release output, none)
  /-- The search for the command fails. -/
  | searchFailed {plan : Plan} {j : Job} {t : Shell} {f : Fault}
      (hplan : Plan.ofLine? line = some plan) (hopens : s.Opens plan j)
      (hname : j.shell.identify plan.command = (t, .error f)) :
      Ends run s line (Job.finish (⟨t, j.output, j.error⟩, some f))
  /-- The command is carried out, and the job ended. -/
  | dispatched {plan : Plan} {identity : Identity} {j : Job}
      (h : s.Dispatches line plan identity j) :
      Ends run s line (Job.finish (j.perform run plan identity))

/-- Nothing waits in a file that has just been opened. -/
theorem Files.waiting_of_openFile {files files' : Files} {start : Place} {path : String}
    {append : Bool} {h : Handle} (hopen : files.openFile start path append = .ok (files', h)) :
    h.waiting = [] := by
  unfold openFile at hopen
  split at hopen
  · cases hopen
  · cases hopen
    rfl
  · split at hopen <;> cases hopen <;> rfl

/-- Opening a file of a redirection touches the files, and the uses of files. -/
theorem Machine.openFile_eq_ok {m m' : Machine} {t : Target} {h : Handle}
    (hopen : m.openFile t = .ok (m', h)) :
    ∃ files, m.files.openFile m.place t.path t.append = .ok (files, h) ∧
      m' = { m with files := files }.use (.opened h.object) := by
  unfold openFile at hopen
  split at hopen
  · cases hopen
  · split at hopen
    · next files handle hfile =>
      cases hopen
      exact ⟨files, hfile, rfl⟩
    · cases hopen

namespace Shell

/-- A sink that has been opened: a stream of the process, or a file, after which at most the files
    are others. -/
theorem openSink_cases {s s' : Shell} {c : Channel} {target : Option Target} {sink : Sink}
    (h : s.openSink c target = .ok (s', sink)) :
    (target = none ∧ s' = s ∧ sink = .stream (.ofLabel c.label)) ∨
      ∃ t files handle, target = some t ∧ sink = .file t.path handle ∧
        s.machine.files.openFile s.machine.place t.path t.append = .ok (files, handle) ∧
        s' = s.withMachine ({ s.machine with files := files }.use (.opened handle.object)) := by
  unfold openSink Machine.openSink at h
  cases target with
  | none =>
    cases h
    exact .inl ⟨rfl, rfl, rfl⟩
  | some t =>
    dsimp only at h
    cases hopen : s.machine.openFile t with
    | error f =>
      rw [hopen] at h
      cases h
    | ok opened =>
      obtain ⟨m, handle⟩ := opened
      obtain ⟨files, hfile, rfl⟩ := Machine.openFile_eq_ok hopen
      rw [hopen] at h
      cases h
      exact .inr ⟨t, files, handle, rfl, rfl, hfile, rfl⟩

/-- A redirection to a file that opens. -/
theorem openSink_of_openFile {s : Shell} {t : Target} {files : Files} {h : Handle}
    (hclean : Machine.hasNul t.path = false)
    (hopen : s.machine.files.openFile s.machine.place t.path t.append = .ok (files, h))
    (c : Channel) :
    s.openSink c (some t) =
      .ok (s.withMachine ({ s.machine with files := files }.use (.opened h.object)),
        .file t.path h) := by
  unfold openSink Machine.openSink Machine.openFile
  dsimp only
  rw [hclean, hopen]
  rfl

theorem waiting_of_openSink {s s' : Shell} {c : Channel} {target : Option Target} {sink : Sink}
    (h : s.openSink c target = .ok (s', sink)) : sink.waiting = [] := by
  obtain ⟨-, -, rfl⟩ | ⟨_, _, _, -, rfl, hopen, -⟩ := openSink_cases h
  · rfl
  · exact Files.waiting_of_openFile hopen

theorem Keeps.openSink {s s' : Shell} {c : Channel} {target : Option Target} {sink : Sink}
    (h : s.openSink c target = .ok (s', sink)) : s.Keeps s' := by
  obtain ⟨-, rfl, -⟩ | ⟨-, files, -, -, -, -, rfl⟩ := openSink_cases h
  · exact .refl _
  · exact (Keeps.withFiles files s).trans (.use _ _)

theorem Opens.waiting {s : Shell} {plan : Plan} {j : Job} (h : s.Opens plan j) :
    j.output.waiting = [] ∧ j.error.waiting = [] := by
  cases h with
  | intro ho he => exact ⟨waiting_of_openSink ho, waiting_of_openSink he⟩

theorem Opens.keeps {s : Shell} {plan : Plan} {j : Job} (h : s.Opens plan j) : s.Keeps j.shell := by
  cases h with
  | intro ho he => exact (Keeps.openSink ho).trans (.openSink he)

/-- Asking what a name stands for is asking the machine, and noting what it notes. -/
theorem identify_eq {s t : Shell} {name : String} {answer : Except Fault Identity}
    (h : s.identify name = (t, answer)) :
    ∃ es, s.machine.identify reservedWords s.searchPath name = (es, answer) ∧ t = s.noteAll es := by
  cases hm : s.machine.identify reservedWords s.searchPath name with
  | mk es found =>
    unfold identify at h
    rw [hm] at h
    cases h
    exact ⟨es, rfl, rfl⟩

theorem identify_of_machine {s : Shell} {name : String} (es : List Event)
    (answer : Except Fault Identity)
    (h : s.machine.identify reservedWords s.searchPath name = (es, answer)) :
    s.identify name = (s.noteAll es, answer) := by
  rw [identify, h]

theorem Keeps.identify {s t : Shell} {name : String} {answer : Except Fault Identity}
    (h : s.identify name = (t, answer)) : s.Keeps t := by
  obtain ⟨es, -, rfl⟩ := identify_eq h
  exact .noteAll es s

theorem Dispatches.waiting {s : Shell} {line : String} {plan : Plan} {identity : Identity} {j : Job}
    (h : s.Dispatches line plan identity j) : j.output.waiting = [] ∧ j.error.waiting = [] := by
  cases h with
  | intro _ hopens _ => exact hopens.waiting

/-- Until its command is carried out a line touches only the streams, the log and the files. -/
theorem Dispatches.keeps {s : Shell} {line : String} {plan : Plan} {identity : Identity} {j : Job}
    (h : s.Dispatches line plan identity j) : s.Keeps j.shell := by
  cases h with
  | intro _ hopens hname => exact (hopens.keeps.trans (.identify hname)).trans (.note _ _)

/-- A line that is carried out comes to a built-in exactly when it names it, whatever the search
    path has. -/
theorem Dispatches.builtin_iff {s : Shell} {line : String} {plan : Plan} {identity : Identity}
    {j : Job} (h : s.Dispatches line plan identity j) (b : Builtin) :
    identity = .builtin b ↔ plan.command = b.name := by
  obtain ⟨-, -, hname⟩ := h
  obtain ⟨es, hidentify, -⟩ := identify_eq hname
  exact Machine.identify_builtin_iff hidentify b

/-- The sinks of a plan open in one way. -/
theorem Opens.unique {s : Shell} {plan : Plan} {j k : Job} (hj : s.Opens plan j)
    (hk : s.Opens plan k) : j = k := by
  obtain ⟨ho, he⟩ := hj
  obtain ⟨ho', he'⟩ := hk
  cases ho.symm.trans ho'
  cases he.symm.trans he'
  rfl

/-- A line whose sinks open is the job of its plan. -/
theorem execute_of_opens {run : Runner} {s : Shell} {line : String} {plan : Plan} {j : Job}
    (hplan : Plan.ofLine? line = some plan) (hopens : s.Opens plan j) :
    s.execute run line = Job.finish (j.work run plan) := by
  obtain ⟨ho, he⟩ := hopens
  unfold execute
  rw [hplan]
  dsimp only
  unfold executePlan
  rw [ho]
  dsimp only
  rw [he]

/-- A line that comes to carry out a command is the job of that command. -/
theorem execute_of_dispatches {run : Runner} {s : Shell} {line : String} {plan : Plan}
    {identity : Identity} {j : Job} (h : s.Dispatches line plan identity j) :
    s.execute run line = Job.finish (j.perform run plan identity) := by
  obtain ⟨hplan, hopens, hname⟩ := h
  rw [execute_of_opens hplan hopens]
  unfold Job.work
  rw [hname]
  rfl

/-- A line whose output cannot be opened is refused. -/
theorem execute_of_outputRefused {run : Runner} {s : Shell} {line : String} {plan : Plan}
    {r : SinkRefusal} (hplan : Plan.ofLine? line = some plan)
    (ho : s.openSink .output plan.output = .error r) :
    s.execute run line = (s.refuse line r, none) := by
  unfold execute
  rw [hplan]
  dsimp only
  unfold executePlan
  rw [ho]

/-- A line whose error channel cannot be opened is refused, and closes its output. -/
theorem execute_of_errorRefused {run : Runner} {s s₁ : Shell} {line : String} {plan : Plan}
    {output : Sink} {r : SinkRefusal} (hplan : Plan.ofLine? line = some plan)
    (ho : s.openSink .output plan.output = .ok (s₁, output))
    (he : s₁.openSink .error plan.error = .error r) :
    s.execute run line = ((s₁.refuse line r).release output, none) := by
  have hclose : (Job.mk (s₁.refuse line r) output (.stream .error)).close .output =
      (⟨(s₁.refuse line r).release output, output, .stream .error⟩, none) :=
    Job.close_emptied (c := .output) (waiting_of_openSink ho)
  unfold execute
  rw [hplan]
  dsimp only
  unfold executePlan
  rw [ho]
  dsimp only
  rw [he]
  dsimp only
  rw [hclose]

/-- **A line ends by the rules.** -/
theorem execute_ends (run : Runner) (s : Shell) (line : String) :
    Ends run s line (s.execute run line) := by
  cases hplan : Plan.ofLine? line with
  | none =>
    unfold execute
    rw [hplan]
    exact .idle hplan
  | some plan =>
    cases ho : s.openSink .output plan.output with
    | error r =>
      rw [execute_of_outputRefused hplan ho]
      exact .outputRefused hplan ho
    | ok opened =>
      obtain ⟨s₁, output⟩ := opened
      cases he : s₁.openSink .error plan.error with
      | error r =>
        rw [execute_of_errorRefused hplan ho he]
        exact .errorRefused hplan ho he
      | ok opened =>
        obtain ⟨s₂, error⟩ := opened
        have hopens : s.Opens plan ⟨s₂, output, error⟩ := ⟨ho, he⟩
        cases hname : s₂.identify plan.command with
        | mk t answer =>
          cases answer with
          | error f =>
            rw [execute_of_opens hplan hopens, Job.work, hname]
            exact .searchFailed hplan hopens hname
          | ok identity =>
            have h := Dispatches.intro hplan hopens hname
            rw [execute_of_dispatches h]
            exact .dispatched h

end Shell

end LineShell
