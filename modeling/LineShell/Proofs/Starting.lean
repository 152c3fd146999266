import LineShell.Main
import LineShell.Proofs.Resolution

/-!
# The start of a session

A session starts in the directory that a text names, and there are three ways in which the start can
end: the machine has entered the directory, the directory is refused by name, or the start breaks
off without a word about it.

* `Location.Reaches` reads the pieces of a path one after another, two dots going back to the
  directory above, and `Session.Denotes` is the absolute directory that is read;
* `Session.absolute_of_denotes`: taking the steps up back comes to that directory;
* `Session.Refuses` is a directory that the machine does not find, `Session.BreaksOff` what cannot
  be looked for: a relative directory when the working directory has been removed, and a path with
  a NUL;
* `Session.start_enters_or_reports` tells the three endings apart, and what the command line makes
  of the two that are none of a session.
-/

namespace LineShell

open Text

/-! ## 1. Reading a path piece by piece -/

/-- The pieces of a path lead from one location to another as they are written, whatever stands
    there: an empty piece and a single dot stay, two dots go to the directory above, the root being
    its own, and a name goes down. -/
inductive Location.Reaches : Location → List (List Char) → Location → Prop where
  | done (l : Location) : Reaches l [] l
  | empty {l k : Location} {ps : List (List Char)} (h : Reaches l ps k) : Reaches l ([] :: ps) k
  | dot {l k : Location} {ps : List (List Char)} (h : Reaches l ps k) : Reaches l (['.'] :: ps) k
  | up {l k : Location} {ps : List (List Char)} (h : Reaches l.tail ps k) :
      Reaches l (['.', '.'] :: ps) k
  | down {l k : Location} {ps : List (List Char)} (n : Name) (h : Reaches (n :: l) ps k) :
      Reaches l (n.text.toList :: ps) k

namespace Location

/-- Pieces without a slash lead somewhere. -/
theorem exists_reaches (ps : List (List Char)) (h : ∀ p ∈ ps, '/' ∉ p) (l : Location) :
    ∃ k, Reaches l ps k := by
  induction ps generalizing l with
  | nil => exact ⟨l, .done l⟩
  | cons p ps ih =>
    have ih := ih fun q hq => h q (List.mem_cons_of_mem p hq)
    by_cases hnil : p = []
    · obtain ⟨k, hk⟩ := ih l
      exact ⟨k, hnil ▸ .empty hk⟩
    by_cases hdot : p = ['.']
    · obtain ⟨k, hk⟩ := ih l
      exact ⟨k, hdot ▸ .dot hk⟩
    by_cases hdots : p = ['.', '.']
    · obtain ⟨k, hk⟩ := ih l.tail
      exact ⟨k, hdots ▸ .up hk⟩
    have hname : isName (String.ofList p).toList = true := by
      rw [String.toList_ofList]
      exact (isName_iff p).mpr ⟨hnil, hdot, hdots, h p List.mem_cons_self⟩
    obtain ⟨k, hk⟩ := ih (⟨String.ofList p, hname⟩ :: l)
    have hdown : Reaches l ((String.ofList p).toList :: ps) k := .down ⟨_, hname⟩ hk
    rw [String.toList_ofList] at hdown
    exact ⟨k, hdown⟩

/-- **Where the pieces lead is where the steps up have been taken back**: the location is the stack
    of names that a path is collapsed on. -/
theorem Reaches.foldl_collapseStep {l k : Location} {ps : List (List Char)} (h : Reaches l ps k) :
    (ps.filterMap Path.segment?).foldl (Path.collapseStep true) (l.map .down) = k.map .down := by
  induction h with
  | done => rfl
  | empty _ ih => exact ih
  | dot _ ih => exact ih
  | @up l _ _ _ ih => cases l <;> exact ih
  | down n _ ih =>
    have hn : Path.segment? n.text.toList = some (.down n) := Path.segment?_text (.down n)
    rw [List.filterMap_cons_some hn, List.foldl_cons]
    exact ih

end Location

/-- An absolute path that goes on from a location by some pieces is collapsed to where they lead. -/
theorem Path.collapse_of_reaches {p : Path} (hp : p.isAbsolute = true) {l k : Location}
    {ps : List (List Char)} (hsegments : p.segments = l.reverse.map .down ++ ps.filterMap segment?)
    (h : l.Reaches ps k) : p.collapse = ⟨p.anchor, k.reverse.map .down⟩ := by
  have hlocation : (l.reverse.map Segment.down).foldl (collapseStep true) [] = l.map .down := by
    rw [foldl_collapseStep_down, List.append_nil, List.map_reverse, List.reverse_reverse]
  rw [collapse, hp, hsegments, List.foldl_append, hlocation, h.foldl_collapseStep,
    List.map_reverse]

/-! ## 2. The directory that a text names -/

namespace Session

variable {m : Machine} {directory : String} {d : Path}

/-- The absolute directory that a text names on a machine, without empty pieces and dots. A text
    that starts with a slash is read from the root, and exactly two slashes are kept; any other one
    is read from the working directory, which has to be there. -/
inductive Denotes (m : Machine) (directory : String) : Path → Prop where
  | rooted {l : Location} (hroot : directory.toList.head? = some '/')
      (h : Location.Reaches [] (pieces '/' directory.toList) l) :
      Denotes m directory ⟨Anchor.ofChars directory.toList, l.reverse.map .down⟩
  | relative {l : Location} (hroot : directory.toList.head? ≠ some '/')
      (hkept : m.place.lost = 0)
      (h : m.place.base.Reaches (pieces '/' directory.toList) l) :
      Denotes m directory ⟨.root, l.reverse.map .down⟩

/-- **The absolute path of a text is the directory that it names.** -/
theorem absolute_of_denotes (h : Denotes m directory d) :
    absolute m (Path.ofText directory) = .ok d := by
  cases h with
  | rooted hroot h =>
    have habsolute : (Path.ofText directory).isAbsolute = true :=
      (Path.isRooted_typed directory).symm.trans ((isRooted_iff _).mpr hroot)
    rw [absolute, if_pos habsolute, Path.collapse_of_reaches habsolute rfl h]
    rfl
  | relative hroot hkept h =>
    have hrelative := Path.isAbsolute_ofText_eq_false hroot
    have hhere : m.workingDirectory? = some m.place.base.text := if_pos hkept
    have hbase : Path.ofText m.place.base.text = ⟨.root, m.place.base.reverse.map .down⟩ :=
      Path.ofText_text _
    have hreads : absolute m (Path.ofText directory) =
        .ok ((Path.ofText m.place.base.text).join (Path.ofText directory)).collapse := by
      rw [absolute, hrelative, hhere]
      rfl
    rw [hreads, hbase, Path.join_relative _ hrelative]
    exact congrArg Except.ok (Path.collapse_of_reaches rfl rfl h)

/-- Without a working directory a relative text names nothing. -/
theorem absolute_of_lost (hroot : directory.toList.head? ≠ some '/') (hlost : m.place.lost ≠ 0) :
    absolute m (Path.ofText directory) = .error (Errno.fault .noEntry) := by
  have hhere : m.workingDirectory? = none := if_neg hlost
  rw [absolute, Path.isAbsolute_ofText_eq_false hroot, hhere]
  rfl

/-- With a working directory every text names one, and without it the texts that start with a slash
    do. -/
theorem exists_denotes (m : Machine) (directory : String)
    (h : directory.toList.head? = some '/' ∨ m.place.lost = 0) : ∃ d, Denotes m directory d := by
  have hreaches := Location.exists_reaches (pieces '/' directory.toList)
    fun _ => not_mem_of_mem_pieces
  by_cases hroot : directory.toList.head? = some '/'
  · obtain ⟨l, hl⟩ := hreaches []
    exact ⟨_, .rooted hroot hl⟩
  · obtain ⟨l, hl⟩ := hreaches m.place.base
    exact ⟨_, .relative hroot (h.resolve_left hroot) hl⟩

theorem Denotes.isNormal (h : Denotes m directory d) : d.IsNormal :=
  isNormal_absolute (absolute_of_denotes h)

/-! ## 3. The ways to start -/

/-- The directory that a text names is found, at a place. -/
structure Enters (m : Machine) (directory : String) (d : Path) (p : Place) : Prop where
  denotes : Denotes m directory d
  clean : Machine.hasNul d.text = false
  found : m.files.findDirectory m.place d.text = .ok p

/-- The directory that a text names is not found, for a reason. -/
structure Refuses (m : Machine) (directory : String) (d : Path) (e : Errno) : Prop where
  denotes : Denotes m directory d
  clean : Machine.hasNul d.text = false
  missing : m.files.findDirectory m.place d.text = .error e

/-- The directory that a text names cannot be looked for, with the fault that comes of it. -/
inductive BreaksOff (m : Machine) (directory : String) : Fault → Prop where
  /-- The text is read from a working directory that has been removed. -/
  | lost (hroot : directory.toList.head? ≠ some '/') (hlost : m.place.lost ≠ 0) :
      BreaksOff m directory (Errno.fault .noEntry)
  /-- A NUL is left in the path. -/
  | nul {d : Path} (h : Denotes m directory d) (hnul : Machine.hasNul d.text = true) :
      BreaksOff m directory .nulByte

theorem Enters.start_eq {p : Place} (h : Enters m directory d p) (home : Path) :
    start m directory home = .ok ({ m with place := p }, ⟨d, home⟩) := by
  have hchdir : m.chdir d = .ok { m with place := p } := by
    rw [Machine.chdir, h.clean, h.found]
    rfl
  unfold start
  rw [absolute_of_denotes h.denotes]
  dsimp only
  rw [hchdir]

theorem Refuses.start_eq {e : Errno} (h : Refuses m directory d e) (home : Path) :
    start m directory home = .error (.refused directory (e.fault d.text)) := by
  have hchdir : m.chdir d = .error (e.fault d.text) := by
    rw [Machine.chdir, h.clean, h.missing]
    rfl
  unfold start
  rw [absolute_of_denotes h.denotes]
  dsimp only
  rw [hchdir]
  rfl

theorem BreaksOff.start_eq {f : Fault} (h : BreaksOff m directory f) (home : Path) :
    start m directory home = .error (.failed f) := by
  unfold start
  cases h with
  | lost hroot hlost => rw [absolute_of_lost hroot hlost]
  | @nul d h hnul =>
    have hchdir : m.chdir d = .error .nulByte := if_pos hnul
    rw [absolute_of_denotes h]
    dsimp only
    rw [hchdir]
    rfl

/-- How a start ends. -/
inductive Starts (m : Machine) (directory : String) (home : Path) :
    Except StartError (Machine × Session) → Prop where
  | enters {d : Path} {p : Place} (h : Enters m directory d p) :
      Starts m directory home (.ok ({ m with place := p }, ⟨d, home⟩))
  | refuses {d : Path} {e : Errno} (h : Refuses m directory d e) :
      Starts m directory home (.error (.refused directory (e.fault d.text)))
  | breaksOff {f : Fault} (h : BreaksOff m directory f) :
      Starts m directory home (.error (.failed f))

/-- **Every start ends in one of these ways, and in no other.** -/
theorem start_eq_iff {home : Path} {answer : Except StartError (Machine × Session)} :
    start m directory home = answer ↔ Starts m directory home answer := by
  constructor
  · rintro rfl
    by_cases hreads : directory.toList.head? = some '/' ∨ m.place.lost = 0
    · obtain ⟨d, hd⟩ := exists_denotes m directory hreads
      cases hclean : Machine.hasNul d.text with
      | true =>
        have h : BreaksOff m directory .nulByte := .nul hd hclean
        exact h.start_eq home ▸ .breaksOff h
      | false =>
        cases hfind : m.files.findDirectory m.place d.text with
        | ok p =>
          have h : Enters m directory d p := ⟨hd, hclean, hfind⟩
          exact h.start_eq home ▸ .enters h
        | error e =>
          have h : Refuses m directory d e := ⟨hd, hclean, hfind⟩
          exact h.start_eq home ▸ .refuses h
    · obtain ⟨hroot, hlost⟩ := not_or.mp hreads
      have h : BreaksOff m directory (Errno.fault .noEntry) := .lost hroot hlost
      exact h.start_eq home ▸ .breaksOff h
  · intro h
    cases h with
    | enters h => exact h.start_eq home
    | refuses h => exact h.start_eq home
    | breaksOff h => exact h.start_eq home

end Session

/-! ## 4. The command line -/

/-- The reason of a refusal of the system is given in words. -/
theorem Errno.reason_fault (e : Errno) (subject : Option String) :
    (e.fault subject).reason = e.reason := by
  cases e <;> rfl

namespace CommandLine

variable {m : Machine} {settings : Settings}

/-- Logging can be configured by the settings. -/
def Logs (m : Machine) (settings : Settings) : Prop :=
  ∃ logger, Logger.configure settings.logLevel settings.logProfile
    (Screen.columns m.environment) {} = (logger, none)

/-- How a start that has come to no session ends. -/
def unstarted (m : Machine) : Session.StartError → Ending
  | .refused d f =>
    { exit := 1, machine := m
      error := Bytes.ofLine ("tinysh: " ++ (Session.StartError.refused d f).message) }
  | .failed f => { exit := 1, machine := m, failure := some (.fault f) }

theorem build_of_session_error {e : Session.StartError} (hlogs : Logs m settings)
    (hstart : Session.start m settings.startDirectory.text (settings.home.getD m.home) = .error e)
    (moment : Moment) : build m moment settings = .error (unstarted m e) := by
  obtain ⟨logger, hconfigure⟩ := hlogs
  unfold build
  dsimp only
  rw [hconfigure]
  dsimp only
  rw [hstart]
  cases e <;> rfl

/-- **Without a session there is nothing to run**: the command line ends as the start has ended,
    behind what is said about the env file. -/
theorem start_of_session_error {arguments : List String} {i : Invocation} {e : Session.StartError}
    (hparse : parse arguments = .ok i) (hload : Settings.loadOn m (given i) = .ok settings)
    (hlogs : Logs m settings)
    (hstart : Session.start m settings.startDirectory.text (settings.home.getD m.home) = .error e)
    (run : Runner) (moment : Moment) (input : String) :
    start run m moment arguments input =
      { unstarted m e with error := complaints m ++ (unstarted m e).error } := by
  have hproceed : proceed run m moment input i = unstarted m e := by
    unfold proceed
    rw [hload]
    dsimp only
    rw [build_of_session_error hlogs hstart]
  unfold start
  rw [hparse]
  dsimp only [carryOut]
  rw [hproceed]

end CommandLine

namespace Session

/-- **A start enters its directory or reports it, unless it breaks off.** A session that has started
    is in the absolute directory that the text names, without dots, and the machine has found that
    directory and is in it. The start is refused, with the directory as it was given, exactly if
    the machine does not find it. It breaks off exactly if the directory is relative and the working
    directory has been removed, or if a NUL is left in the path. The command line, once it has its
    settings and its log, answers a directory that is refused by a message of one line and a start
    that breaks off by no message; it ends with 1 either way, and the machine is where it was. -/
theorem start_enters_or_reports (m : Machine) (directory : String) (home : Path) :
    (∀ m' s, start m directory home = .ok (m', s) ↔
      ∃ d p, Enters m directory d p ∧ m' = { m with place := p } ∧ s = ⟨d, home⟩ ∧ d.IsNormal) ∧
    (∀ written f, start m directory home = .error (.refused written f) ↔
      written = directory ∧ ∃ d e, Refuses m directory d e ∧ f = e.fault d.text) ∧
    (∀ f, start m directory home = .error (.failed f) ↔ BreaksOff m directory f) ∧
    ∀ run moment arguments input i settings, CommandLine.parse arguments = .ok i →
      Settings.loadOn m (CommandLine.given i) = .ok settings → CommandLine.Logs m settings →
        settings.startDirectory.text = directory →
          (∀ d e, Refuses m directory d e →
            CommandLine.start run m moment arguments input =
              { exit := 1, machine := m
                error := CommandLine.complaints m ++ Bytes.ofLine ("tinysh: " ++
                  ("cannot enter start directory " ++ directory ++ ": " ++ e.reason)) }) ∧
          ∀ f, BreaksOff m directory f →
            CommandLine.start run m moment arguments input =
              { exit := 1, machine := m, error := CommandLine.complaints m
                failure := some (.fault f) } := by
  refine ⟨?_, ?_, ?_, ?_⟩
  · intro m' s
    constructor
    · intro hstart
      cases start_eq_iff.mp hstart with
      | enters h => exact ⟨_, _, h, rfl, rfl, h.denotes.isNormal⟩
    · rintro ⟨d, p, h, rfl, rfl, -⟩
      exact h.start_eq home
  · intro written f
    constructor
    · intro hstart
      cases start_eq_iff.mp hstart with
      | refuses h => exact ⟨rfl, _, _, h, rfl⟩
    · rintro ⟨rfl, d, e, h, rfl⟩
      exact h.start_eq home
  · intro f
    constructor
    · intro hstart
      cases start_eq_iff.mp hstart with
      | breaksOff h => exact h
    · intro h
      exact h.start_eq home
  · rintro run moment arguments input i settings hparse hload hlogs rfl
    constructor
    · intro d e h
      rw [CommandLine.start_of_session_error hparse hload hlogs (h.start_eq _)]
      dsimp only [CommandLine.unstarted, StartError.message]
      rw [Errno.reason_fault]
    · intro f h
      rw [CommandLine.start_of_session_error hparse hload hlogs (h.start_eq _)]
      dsimp only [CommandLine.unstarted]
      rw [List.append_nil]

/-- A relative directory that goes up and down again, and is not there. -/
theorem start_enters_or_reports_missing :
    CommandLine.start Machine.launch (CommandLine.memoryMachine []) ⟨2024, 1, 2, 3, 4, 5, 678⟩
        ["run", "-C", "tmp/../none", "pwd"] "" =
      { exit := 1, machine := CommandLine.memoryMachine []
        error := Bytes.ofLine
          "tinysh: cannot enter start directory tmp/../none: No such file or directory" } := by
  have hload : Settings.loadOn (CommandLine.memoryMachine [])
      (CommandLine.given (.run "pwd" (some "tmp/../none"))) =
        .ok { startDirectory := Path.ofText "tmp/../none" } := by decide +kernel
  have hlogs : CommandLine.Logs (CommandLine.memoryMachine [])
      { startDirectory := Path.ofText "tmp/../none" } := ⟨_, Prod.ext rfl (by decide +kernel)⟩
  have hpieces : pieces '/' "tmp/../none".toList =
      ["tmp".toList, ['.', '.'], "none".toList] := by decide
  have hreaches : Location.Reaches [] (pieces '/' "tmp/../none".toList) [⟨"none", by decide⟩] := by
    rw [hpieces]
    exact .down ⟨"tmp", by decide⟩ (.up (.down ⟨"none", by decide⟩ (.done _)))
  have hroot : "tmp/../none".toList.head? ≠ some '/' := by decide
  have hdenotes : Denotes (CommandLine.memoryMachine []) "tmp/../none" _ :=
    .relative hroot rfl hreaches
  have hrefuses : Refuses (CommandLine.memoryMachine []) "tmp/../none" _ .noEntry :=
    ⟨hdenotes, by decide +kernel, by decide +kernel⟩
  have hanswer := ((start_enters_or_reports (CommandLine.memoryMachine []) "tmp/../none"
    .root).2.2.2 Machine.launch ⟨2024, 1, 2, 3, 4, 5, 678⟩ ["run", "-C", "tmp/../none", "pwd"] ""
    (.run "pwd" (some "tmp/../none")) _ (by decide +kernel) hload hlogs (by decide +kernel)).1
    _ _ hrefuses
  have hcomplaints : CommandLine.complaints (CommandLine.memoryMachine []) = [] := by
    decide +kernel
  have hmessage : "tinysh: " ++ ("cannot enter start directory " ++ "tmp/../none" ++ ": " ++
      Errno.noEntry.reason) =
        "tinysh: cannot enter start directory tmp/../none: No such file or directory" := by
    decide +kernel
  rw [hcomplaints, hmessage, List.nil_append] at hanswer
  exact hanswer

/-- A NUL in the path and a relative directory without a working directory: the start is broken off,
    and the command line says nothing. -/
theorem start_breaks_off_unsaid :
    start {} "/a\x00b" .root = .error (.failed .nulByte) ∧
      start { place := ⟨[], 1⟩ } "a" .root = .error (.failed (Errno.fault .noEntry)) ∧
      CommandLine.start Machine.launch { place := ⟨[], 1⟩ } ⟨2024, 1, 2, 3, 4, 5, 678⟩
          ["run", "-C", "a", "pwd"] "" =
        { exit := 1, machine := { place := ⟨[], 1⟩ }
          failure := some (.fault (Errno.fault .noEntry)) } := by
  have hbreaks : BreaksOff { place := ⟨[], 1⟩ } "a" (Errno.fault .noEntry) :=
    .lost (by decide) (by decide)
  have hload : Settings.loadOn { place := ⟨[], 1⟩ } (CommandLine.given (.run "pwd" (some "a"))) =
      .ok { startDirectory := Path.ofText "a" } := by decide +kernel
  have hlogs : CommandLine.Logs { place := ⟨[], 1⟩ } { startDirectory := Path.ofText "a" } :=
    ⟨_, Prod.ext rfl (by decide +kernel)⟩
  exact ⟨rfl, hbreaks.start_eq _,
    CommandLine.start_of_session_error rfl hload hlogs (hbreaks.start_eq _) _ _ _⟩

end Session

end LineShell
