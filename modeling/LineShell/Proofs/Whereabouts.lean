import LineShell.Proofs.Normal
import LineShell.Proofs.Routing

/-!
# Where the shell is

The session has a directory and the machine has a place, and nothing in the definitions ties the two
together. They belong together all the same: both are what the last directory was that the machine
has entered, whatever lines have been run and whatever has become of the files in between.

* `Whereabouts` is a session together with a place of the machine;
* `Shell.Moves` says which lines enter a directory, by the answer of the machine alone;
* `Session.Tells` is the one line that a `cd` writes, with where the shell is then;
* `Shell.execute_moves` and `Shell.execute_stays` are what one line does;
* `Journey` is a run from the start of a session, and `Journey.at_last_entered` its invariant.
-/

namespace LineShell

/-! ## 1. Positions -/

/-- A session, and the place where the machine is. -/
structure Whereabouts where
  session : Session
  place : Place
  deriving DecidableEq

/-- Where the shell is. -/
def Shell.whereabouts (s : Shell) : Whereabouts := ⟨s.session, s.machine.place⟩

theorem Shell.Keeps.whereabouts {s t : Shell} (h : s.Keeps t) : t.whereabouts = s.whereabouts := by
  rw [Shell.whereabouts, Shell.whereabouts, h.session, h.place]

/-- The session after the machine has entered a directory. -/
def Session.entered (s : Session) (d : Path) : Session := { s with directory := d }

/-- What a `cd` writes on its output, and where the shell is then. -/
inductive Session.Tells (s : Session) (m : Machine) (arguments : List String) :
    String → Whereabouts → Prop where
  /-- The machine enters the directory. -/
  | entered {m' : Machine} (h : m.chdir (s.destination arguments) = .ok m') :
      s.Tells m arguments ("Changed directory to: " ++ (s.destination arguments).text)
        ⟨s.entered (s.destination arguments), m'.place⟩
  /-- It does not, for a reason that is not blank. -/
  | refused {f : Fault} (h : m.chdir (s.destination arguments) = .error f)
      (hreason : ∃ c ∈ (moveReason f).toList, Text.isBlank c = false) :
      s.Tells m arguments ("cd: " ++ s.target arguments ++ ": " ++ moveReason f) ⟨s, m.place⟩

/-- The line is a `cd` that is carried out, and the machine can enter the directory that it asks
    for. -/
inductive Shell.Moves (s : Shell) (line : String) : Whereabouts → Prop where
  | intro {plan : Plan} {identity : Identity} {j : Job} {m : Machine}
      (h : s.Dispatches line plan identity j) (hcommand : plan.command = "cd")
      (henter : j.shell.machine.chdir (s.session.destination plan.arguments) = .ok m) :
      s.Moves line ⟨s.session.entered (s.session.destination plan.arguments), m.place⟩

/-! ## 2. Reasons -/

/-- A text that is trimmed and not empty is not blank. -/
theorem Text.exists_of_trim_ne_empty {s : String} (h : trim s ≠ "") :
    ∃ c ∈ (trim s).toList, isBlank c = false := by
  have hlist : (trim s).toList = ((trimStart s.toList).reverse.dropWhile isBlank).reverse := by
    rw [trim, String.toList_ofList, trimEnd]
  have hhead := List.head?_dropWhile_not isBlank (trimStart s.toList).reverse
  cases hd : (trimStart s.toList).reverse.dropWhile isBlank with
  | nil =>
    rw [hd] at hlist
    exact absurd (String.toList_eq_nil_iff.mp hlist) h
  | cons c cs =>
    rw [hd] at hlist hhead
    exact ⟨c, hlist ▸ List.mem_reverse.mpr List.mem_cons_self, hhead⟩

/-- **The reason of a move that was refused is never blank.** -/
theorem moveReason_not_blank (f : Fault) : ∃ c ∈ (moveReason f).toList, Text.isBlank c = false := by
  have hdefault : ∃ c ∈ defaultMoveReason.toList, Text.isBlank c = false :=
    ⟨'N', by decide, by decide⟩
  have htrim : ∀ text : String,
      ∃ c ∈ (if Text.trim text = "" then defaultMoveReason else Text.trim text).toList,
        Text.isBlank c = false := by
    intro text
    split
    · exact hdefault
    · next h => exact Text.exists_of_trim_ne_empty h
  cases f with
  | system number reason subject => exact htrim reason
  | badValue text => exact htrim text
  | unnumbered text => exact hdefault
  | process text => exact hdefault
  | internal text => exact hdefault

/-! ## 3. Commands -/

namespace Job

/-- **A `cd` writes one line**, and tells by it where the shell is then; nothing else is written but
    the log. -/
theorem changeDirectory_tells (run : Runner) (plan : Plan) (j : Job) :
    ∃ t text, ((∃ es, j.shell.Noted es t) ∧ t.machine.files = j.shell.machine.files) ∧
      j.changeDirectory Machine.chdir plan.arguments = writeLine text { j with shell := t } ∧
      j.shell.session.Tells j.shell.machine plan.arguments text t.whereabouts := by
  cases hm : j.shell.machine.chdir (j.shell.session.destination plan.arguments) with
  | ok m =>
    have hacts : Acts run plan j.shell (.builtin .changeDirectory) _ := .moved hm
    obtain ⟨place, rfl⟩ := Machine.chdir_eq_ok hm
    exact ⟨j.shell.arrive _ _, _, ⟨hacts.noted, rfl⟩, changeDirectory_of_ok hm, .entered hm⟩
  | error f =>
    have hacts : Acts run plan j.shell (.builtin .changeDirectory) _ := .stayed hm
    exact ⟨j.shell.note _, _, ⟨hacts.noted, rfl⟩, changeDirectory_of_error hm,
      .refused hm (moveReason_not_blank f)⟩

/-- A program moves nobody, whatever its runner does. -/
theorem runProgram_stays (run : Runner) (plan : Plan) (path : Path) (j : Job) :
    (j.runProgram run plan path).1.shell.whereabouts = j.shell.whereabouts := by
  unfold runProgram onShell
  dsimp only
  split
  · next done _ =>
    have hwrite := write_frame .output done.output
      ⟨(j.shell.launched plan path).note (.ended plan.command done.status), j.output, j.error⟩
    exact (andThen_frame hwrite (write_frame .error done.error)).whereabouts
  · split <;> rfl

/-- No command but `cd` moves anybody. -/
theorem perform_stays (run : Runner) (plan : Plan) {identity : Identity} (j : Job)
    (h : identity ≠ .builtin .changeDirectory) :
    (j.perform run plan identity).1.shell.whereabouts = j.shell.whereabouts := by
  cases identity with
  | reserved name message => exact (write_frame .output _ j).whereabouts
  | builtin b =>
    cases b with
    | changeDirectory => exact absurd rfl h
    | printDirectory => exact (write_frame .output _ j).whereabouts
  | external path => exact runProgram_stays run plan path j
  | notFound name => rfl

end Job

/-! ## 4. Lines -/

namespace Shell

/-- A line is carried out in one way. -/
theorem Dispatches.unique {s : Shell} {line : String} {plan plan' : Plan}
    {identity identity' : Identity} {j j' : Job} (h : s.Dispatches line plan identity j)
    (h' : s.Dispatches line plan' identity' j') : plan = plan' ∧ identity = identity' ∧ j = j' := by
  obtain ⟨hplan, hopens, hname⟩ := h
  obtain ⟨hplan', hopens', hname'⟩ := h'
  cases hplan.symm.trans hplan'
  cases hopens.unique hopens'
  cases hname.symm.trans hname'
  exact ⟨rfl, rfl, rfl⟩

/-- A line with `cd` for its command writes the one line that tells where the shell is when it has
    ended, whatever else fails in it. -/
theorem Dispatches.tells {s : Shell} {line : String} {plan : Plan} {identity : Identity} {j : Job}
    (h : s.Dispatches line plan identity j) (hcommand : plan.command = "cd") (run : Runner) :
    ∃ t text, ((∃ es, j.shell.Noted es t) ∧ t.machine.files = j.shell.machine.files) ∧
      j.perform run plan identity = Job.writeLine text { j with shell := t } ∧
      s.session.Tells j.shell.machine plan.arguments text (s.execute run line).1.whereabouts := by
  obtain ⟨t, text, ht, hperform, htells⟩ := j.changeDirectory_tells run plan
  cases (h.builtin_iff .changeDirectory).mpr hcommand
  refine ⟨t, text, ht, hperform, ?_⟩
  have hwrite : t.Keeps (j.perform run plan (.builtin .changeDirectory)).1.shell := by
    rw [show j.perform run plan (.builtin .changeDirectory) = _ from hperform]
    exact Job.write_frame .output (Bytes.ofLine text) ⟨t, j.output, j.error⟩
  rw [execute_of_dispatches h, (hwrite.trans (Job.finish_frame _)).whereabouts]
  rw [h.keeps.session] at htells
  exact htells

/-- **A line that enters a directory ends there.** -/
theorem execute_moves (run : Runner) {s : Shell} {line : String} {a : Whereabouts}
    (h : s.Moves line a) : (s.execute run line).1.whereabouts = a := by
  obtain ⟨h, hcommand, henter⟩ := h
  obtain ⟨t, text, -, -, htells⟩ := h.tells hcommand run
  generalize (s.execute run line).1.whereabouts = b at htells ⊢
  cases htells with
  | entered henter' =>
    cases henter.symm.trans henter'
    rfl
  | refused hrefuse _ => cases henter.symm.trans hrefuse

/-- **Any other line leaves session and machine where they are**, whatever runs and whatever fails
    in it. -/
theorem execute_stays (run : Runner) {s : Shell} {line : String} (h : ∀ a, ¬ s.Moves line a) :
    (s.execute run line).1.whereabouts = s.whereabouts := by
  have hends := s.execute_ends run line
  generalize hr : s.execute run line = r at hends ⊢
  cases hends with
  | idle hplan => rfl
  | outputRefused hplan ho => exact (Keeps.refuse line _ s).whereabouts
  | errorRefused hplan ho he =>
    exact (((Keeps.openSink ho).trans (.refuse line _ _)).trans (.release _ _)).whereabouts
  | @searchFailed plan j t f hplan hopens hname =>
    have hfinish := Job.finish_frame (⟨t, j.output, j.error⟩, some f)
    exact ((hopens.keeps.trans (.identify hname)).trans hfinish).whereabouts
  | @dispatched plan identity j hd =>
    by_cases hcommand : plan.command = "cd"
    · obtain ⟨t, text, -, -, htells⟩ := hd.tells hcommand run
      rw [hr] at htells
      generalize (Job.finish (j.perform run plan identity)).1.whereabouts = b at htells ⊢
      cases htells with
      | entered henter => exact absurd (.intro hd hcommand henter) (h _)
      | refused _ _ => rw [hd.keeps.place, whereabouts]
    · have hother : identity ≠ .builtin .changeDirectory :=
        fun heq => hcommand ((hd.builtin_iff .changeDirectory).mp heq)
      have hfinish := (Job.finish_frame (j.perform run plan identity)).whereabouts
      rw [hfinish, Job.perform_stays run plan j hother, hd.keeps.whereabouts]

/-- Which `cd` lines enter a directory is for the machine to say, as it is when they are carried
    out. -/
theorem Dispatches.moves_iff {s : Shell} {line : String} {plan : Plan} {identity : Identity}
    {j : Job} (h : s.Dispatches line plan identity j) (hcommand : plan.command = "cd") :
    (∃ a, s.Moves line a) ↔
      ∃ m, j.shell.machine.chdir (s.session.destination plan.arguments) = .ok m := by
  constructor
  · intro hmoves
    obtain ⟨_, ⟨h', -, henter⟩⟩ := hmoves
    obtain ⟨rfl, rfl, rfl⟩ := h.unique h'
    exact ⟨_, henter⟩
  · intro hentered
    obtain ⟨m, henter⟩ := hentered
    exact ⟨_, .intro h hcommand henter⟩

end Shell

/-- The line that a `cd` writes says whether the machine has entered the directory. -/
theorem Session.Tells.entered_iff {s : Session} {m : Machine} {arguments : List String}
    {text : String} {a : Whereabouts} (h : s.Tells m arguments text a) :
    (∃ p, text = "Changed directory to: " ++ p) ↔
      ∃ m', m.chdir (s.destination arguments) = .ok m' := by
  cases h with
  | entered h => exact ⟨fun _ => ⟨_, h⟩, fun _ => ⟨_, rfl⟩⟩
  | refused h hreason =>
    constructor
    · intro hsays
      obtain ⟨p, hp⟩ := hsays
      have hhead := congrArg (fun t : String => t.toList.head?) hp
      simp [String.toList_append] at hhead
    · intro hentered
      obtain ⟨m', h'⟩ := hentered
      cases h.symm.trans h'

/-! ## 5. Runs -/

/-- A run of lines from the start of a session, with what was entered last: the directory at the
    start, and from then on that of each line that moves. Commands may run in any way, and between
    two lines others may change the files, and remove directories, the working directory too. -/
inductive Journey : Whereabouts → Shell → Prop where
  | start {m m' : Machine} {directory : String} {home d : Path} {s : Shell}
      (hdirectory : Session.absolute m (Path.ofText directory) = .ok d)
      (henter : m.chdir d = .ok m')
      (hstart : Session.start m directory home = .ok (s.machine, s.session)) :
      Journey ⟨⟨d, home⟩, m'.place⟩ s
  | moved {a b : Whereabouts} {s : Shell} {line : String} (h : Journey a s) (run : Runner)
      (hmoves : s.Moves line b) : Journey b (s.execute run line).1
  | stayed {a : Whereabouts} {s : Shell} {line : String} (h : Journey a s) (run : Runner)
      (hstays : ∀ b, ¬ s.Moves line b) : Journey a (s.execute run line).1
  | changed {a : Whereabouts} {s : Shell} (h : Journey a s) (files : Files) :
      Journey a (s.withFiles files)
  | removed {a : Whereabouts} {s : Shell} (h : Journey a s) (l : Location) :
      Journey ⟨a.session, a.place.afterRemoval l⟩
        (s.withMachine { s.machine with
          files := s.machine.files.remove l
          place := s.machine.place.afterRemoval l })

namespace Journey

variable {a : Whereabouts} {s : Shell}

/-- Session and machine are where the last directory was entered. -/
theorem whereabouts_eq (h : Journey a s) : s.whereabouts = a := by
  induction h with
  | start hdirectory henter hstart =>
    obtain ⟨hd, hm, hhome⟩ := Session.start_eq_ok hstart
    cases hdirectory.symm.trans hd
    cases henter.symm.trans hm
    rw [← hhome]
    rfl
  | moved _ run hmoves _ => exact Shell.execute_moves run hmoves
  | stayed _ run hstays ih => rw [Shell.execute_stays run hstays, ih]
  | changed _ files ih => rw [(Shell.Keeps.withFiles files _).whereabouts, ih]
  | removed _ l ih =>
    rw [← ih]
    rfl

/-- The directory that was entered last is normal. -/
theorem isNormal_directory (h : Journey a s) : a.session.directory.IsNormal := by
  induction h with
  | start hdirectory _ _ => exact Session.isNormal_absolute hdirectory
  | @moved a b s line h run hmoves ih =>
    obtain ⟨-, -, -⟩ := hmoves
    have hdirectory : s.session.directory = a.session.directory :=
      congrArg (fun w : Whereabouts => w.session.directory) h.whereabouts_eq
    exact Path.isNormal_resolve (hdirectory ▸ ih.absolute) _
  | stayed _ _ _ ih => exact ih
  | changed _ _ ih => exact ih
  | removed _ _ ih => exact ih

/-- A journey goes on with any line. -/
theorem execute (h : Journey a s) (run : Runner) (line : String) :
    Journey (s.execute run line).1.whereabouts (s.execute run line).1 := by
  by_cases hmoves : ∃ b, s.Moves line b
  · obtain ⟨b, hb⟩ := hmoves
    rw [Shell.execute_moves run hb]
    exact .moved h run hb
  · have hstays : ∀ b, ¬ s.Moves line b := fun b hb => hmoves ⟨b, hb⟩
    rw [Shell.execute_stays run hstays, h.whereabouts_eq]
    exact .stayed h run hstays

/-- **Session and machine never drift apart.** After any run they are where the machine has entered
    a directory last, and that directory is normal, as it is in print. A line that enters a
    directory takes them there and any other leaves them; whatever it does, the run goes on. A `cd`
    that is carried out writes one line and tells by it where the shell is then, as one that has
    changed directory exactly if it has; and `pwd` writes the directory that was entered last. -/
theorem at_last_entered (h : Journey a s) :
    s.whereabouts = a ∧ a.session.directory.IsNormal ∧
      (∃ lead ∈ ["/", "//"], ∃ ns : List Name,
        a.session.directory.text = lead ++ "/".intercalate (ns.map Name.text)) ∧
      ∀ run line,
        Journey (s.execute run line).1.whereabouts (s.execute run line).1 ∧
        (∀ b, s.Moves line b → (s.execute run line).1.whereabouts = b) ∧
        ((∀ b, ¬ s.Moves line b) → (s.execute run line).1.whereabouts = a) ∧
        ∀ plan identity j, s.Dispatches line plan identity j →
          (plan.command = "cd" →
            ∃ t text, ((∃ es, j.shell.Noted es t) ∧ t.machine.files = j.shell.machine.files) ∧
              j.perform run plan identity = Job.writeLine text { j with shell := t } ∧
              a.session.Tells j.shell.machine plan.arguments text
                (s.execute run line).1.whereabouts ∧
              ((∃ p, text = "Changed directory to: " ++ p) ↔ ∃ b, s.Moves line b)) ∧
          (plan.command = "pwd" →
            j.perform run plan identity = j.writeLine a.session.directory.text) := by
  have hat := h.whereabouts_eq
  have hsession : s.session = a.session := congrArg Whereabouts.session hat
  refine ⟨hat, h.isNormal_directory, h.isNormal_directory.text_eq, fun run line => ?_⟩
  refine ⟨h.execute run line, fun b hb => Shell.execute_moves run hb, fun hstays => ?_, ?_⟩
  · rw [Shell.execute_stays run hstays, hat]
  · intro plan identity j hd
    constructor
    · intro hcommand
      obtain ⟨t, text, ht, hperform, htells⟩ := hd.tells hcommand run
      refine ⟨t, text, ht, hperform, hsession ▸ htells, ?_⟩
      rw [htells.entered_iff, hd.moves_iff hcommand]
    · intro hcommand
      cases (hd.builtin_iff .printDirectory).mpr hcommand
      rw [← hsession, ← hd.keeps.session]
      rfl

/-- A start at the root, and one `cd` from there. -/
theorem at_last_entered_cd :
    ∃ s : Shell, Journey ⟨⟨⟨.root, [.down ⟨"a", by decide⟩]⟩, .root⟩, ⟨[⟨"a", by decide⟩], 0⟩⟩ s ∧
      s.whereabouts = ⟨⟨⟨.root, [.down ⟨"a", by decide⟩]⟩, .root⟩, ⟨[⟨"a", by decide⟩], 0⟩⟩ := by
  have hdirectory : Session.absolute { files := ⟨[([⟨"a", by decide⟩], .directory)]⟩ }
      (Path.ofText "/") = .ok .root := rfl
  have hstart : Journey ⟨⟨.root, .root⟩, .root⟩
      { machine := { files := ⟨[([⟨"a", by decide⟩], .directory)]⟩ } } :=
    .start hdirectory rfl rfl
  have hplan : Plan.ofLine? "cd a" = some ⟨"cd", ["a"], none, none⟩ := by decide +kernel
  have hmoved := hstart.moved Machine.launch (.intro (.intro hplan (.intro rfl rfl) rfl) rfl rfl)
  exact ⟨_, hmoved, (at_last_entered hmoved).1⟩

end Journey

end LineShell
