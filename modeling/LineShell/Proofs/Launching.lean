import LineShell.Proofs.Escape
import LineShell.Proofs.PathText

/-!
# The command that is found and the one that is run

A search finds a command as an entry of a directory. What is handed on is the path of the entry in
print, and the machine reads that path again when the command is run.

* `Machine.FindsAt` is an entry where the search has found it, `Machine.searchIn_found` the
  directory that settles a search;
* `Files.find_entryPath`: the printed path leads to that directory, with the links that the way to
  it has left, and then into the entry;
* `Machine.launch_identified` puts the two readings together. A command is run as the entry it was
  found as, unless its path has grown too long, or its directory is the working directory written
  with dots alone: then the path in print is the bare name, and the name is looked for along the
  `PATH` of the environment, which has nothing to do with where it was found.
-/

namespace LineShell

/-! ## 1. What a search finds -/

namespace Machine

variable {m : Machine}

/-- The directory that `d` names is at `p`, and has the entry `n`. -/
structure FindsAt (m : Machine) (d : String) (p : Place) (n : Name) : Prop where
  clean : hasNul d = false
  directory : m.files.findDirectory m.place d = .ok p
  kept : p.lost = 0
  entry : ∃ node, m.files.get? (n :: p.base) = some node

theorem findsAt_of_holds {d name : String} (h : m.holds d name = .ok true) :
    ∃ p n, m.FindsAt d p n ∧ n.text = name := by
  unfold holds at h
  cases hd : hasNul d with
  | true =>
    rw [hd] at h
    cases h
  | false =>
    rw [hd] at h
    cases hp : m.files.findDirectory m.place d with
    | error e =>
      rw [hp] at h
      cases h
    | ok p =>
      rw [hp] at h
      have h : m.holdsAt p name = true := Except.ok.inj h
      unfold holdsAt at h
      cases hn : Name.ofChars? name.toList with
      | none =>
        rw [hn] at h
        cases h
      | some n =>
        simp only [hn, Bool.and_eq_true, decide_eq_true_eq] at h
        refine ⟨p, n, ⟨hd, hp, h.1, Option.isSome_iff_exists.mp h.2⟩, ?_⟩
        unfold Name.ofChars? at hn
        split at hn
        · cases hn
          exact String.ofList_toList
        · cases hn

/-- The directory that settles a search: it has the entry, and none before it has. -/
def Settles (m : Machine) (name : String) (ds : List String) (d : String) : Prop :=
  ∃ before after, ds = before ++ d :: after ∧ m.holds d name = .ok true ∧
    ∀ e ∈ before, hasNul e = false ∧ m.holds e name ≠ .ok true

/-- **What a search finds is an entry of the directory that settles it.** -/
theorem searchIn_found {name : String} {ds : List String} {path : Path}
    (h : (m.searchIn name ds).2 = .ok (some path)) :
    ∃ d, m.Settles name ds d ∧ path = entryPath d name := by
  induction ds with
  | nil => cases h
  | cons d ds ih =>
    -- a directory that is passed over stays in front of the one that settles the search
    have hlater : hasNul d = false → m.holds d name ≠ .ok true →
        (m.searchIn name ds).2 = .ok (some path) →
        ∃ e, m.Settles name (d :: ds) e ∧ path = entryPath e name := by
      intro hd hholds hrest
      obtain ⟨e, ⟨before, after, rfl, he, hbefore⟩, hpath⟩ := ih hrest
      refine ⟨e, ⟨d :: before, after, rfl, he, ?_⟩, hpath⟩
      exact List.forall_mem_cons.mpr ⟨⟨hd, hholds⟩, hbefore⟩
    rw [searchIn] at h
    cases hd : hasNul d with
    | true =>
      have hholds : m.holds d name = .error .nulByte := by rw [holds, hd]; rfl
      rw [hholds] at h
      cases h
    | false =>
      obtain ⟨b, hb⟩ | ⟨number, reason, subject, hs⟩ := m.holds_cases d name hd
      · rw [hb] at h
        cases b with
        | true =>
          cases h
          exact ⟨d, ⟨[], ds, rfl, hb, List.forall_mem_nil _⟩, rfl⟩
        | false =>
          have hholds : m.holds d name ≠ .ok true := by
            rw [hb]
            exact fun heq => Bool.false_ne_true (Except.ok.inj heq)
          exact hlater hd hholds h
      · have hholds : m.holds d name ≠ .ok true := by
          rw [hs]
          intro heq
          cases heq
        rw [hs] at h
        exact hlater hd hholds h

end Machine

/-! ## 2. The way to an entry -/

namespace Files

variable {files : Files}

/-- The place that a walk has ended at. -/
def placeOf : Except Errno Spot → Except Errno Place
  | .ok (.found p) => .ok p
  | .ok (.absent ..) => .error .noEntry
  | .error e => .error e

theorem findPlace_eq (files : Files) (start : Place) (path : String) :
    files.findPlace start path = placeOf (files.find false start path) := by
  unfold findPlace placeOf
  cases files.find false start path with
  | error e => rfl
  | ok spot => cases spot <;> rfl

/-- What the step into an entry comes to: what stands there, or what a link that stands there leads
    to, with so many links left to follow. -/
def enter (files : Files) (links : Nat) (p : Place) (n : Name) : Except Errno Place :=
  placeOf (files.walk false links p [.enter n])

/-- An entry that is no link is where the step into it leads. -/
theorem enter_of_entry {p : Place} {n : Name} {node : Node} (h : files.HasEntry p n node)
    (hnode : ∀ target, node ≠ .link target) (links : Nat) :
    files.enter links p n = .ok ⟨n :: p.base, 0⟩ := by
  have hleads : files.Leads links p [.enter n] links ⟨n :: p.base, 0⟩ :=
    .enter h hnode (.done _ _)
  have hwalk := walk_of_leads hleads []
  rw [enter, ← List.append_nil [Step.enter n], hwalk]
  cases links <;> rfl

/-- Where a walk starts from. -/
def startOf (start : Place) (chars : List Char) : Place := if isRooted chars then .root else start

theorem find_eq {path : String} (hne : path ≠ "") (creating : Bool) (start : Place) :
    files.find creating start path =
      if pathLimit ≤ path.utf8ByteSize then .error .nameTooLong
      else files.walk creating linkLimit (startOf start path.toList) (Step.ofPath path.toList) := by
  rw [find, if_neg hne]
  rfl

theorem found_of_findDirectory {start p : Place} {d : String}
    (h : files.findDirectory start d = .ok p) : files.find false start d = .ok (.found p) := by
  unfold findDirectory at h
  rw [findPlace_eq] at h
  cases hfind : files.find false start d with
  | error e =>
    rw [hfind] at h
    cases h
  | ok spot =>
    rw [hfind] at h
    cases spot with
    | absent l n => cases h
    | found q =>
      simp only [placeOf] at h
      split at h
      · cases h
        rfl
      · cases h

/-- A directory that has been found has been walked to. -/
theorem leads_of_findDirectory {start p : Place} {d : String}
    (h : files.findDirectory start d = .ok p) :
    d ≠ "" ∧ ∃ links,
      files.Leads linkLimit (startOf start d.toList) (Step.ofPath d.toList) links p := by
  have hfound := found_of_findDirectory h
  have hne : d ≠ "" := by
    rintro rfl
    cases hfound
  rw [find_eq hne] at hfound
  split at hfound
  · cases hfound
  · exact ⟨hne, leads_of_walk hfound⟩

theorem text_entryPath_ne {d : String} (hd : d ≠ "") (n : Name) :
    (entryPath d n.text).text ≠ "" := by
  have hsegments : (entryPath d n.text).segments ≠ [] := by simp [entryPath_eq hd n]
  obtain ⟨⟨c, hc, -⟩, -⟩ := Path.body_ends hsegments
  intro heq
  have hempty := congrArg String.toList heq
  rw [Path.toList_text hsegments] at hempty
  rw [(List.append_eq_nil_iff.mp hempty).2] at hc
  cases hc

/-- **The path of an entry leads into the entry** of the directory, with the links that the way to
    the directory has left; unless it is too long. -/
theorem find_entryPath {start p : Place} {d : String}
    (h : files.findDirectory start d = .ok p) (n : Name) :
    ∃ links, files.Leads linkLimit (startOf start d.toList) (Step.ofPath d.toList) links p ∧
      files.findPlace start (entryPath d n.text).text =
        if pathLimit ≤ (entryPath d n.text).text.utf8ByteSize then .error .nameTooLong
        else files.enter links p n := by
  obtain ⟨hd, links, hleads⟩ := leads_of_findDirectory h
  have hentry := entryPath_eq hd n
  have hsegments : (entryPath d n.text).segments ≠ [] := by simp [hentry]
  have hne := text_entryPath_ne hd n
  have hstart : startOf start (entryPath d n.text).text.toList = startOf start d.toList := by
    rw [startOf, startOf, Path.isRooted_text hsegments, Path.isRooted_typed, hentry]
    rfl
  have hsteps : Step.ofPath (entryPath d n.text).text.toList =
      (Path.ofText d).segments.map Segment.step ++ [.enter n] := by
    rw [Step.ofPath_text hsegments, hentry, List.map_append]
    rfl
  refine ⟨links, hleads, ?_⟩
  rw [findPlace_eq, find_eq hne, hstart, hsteps, walk_of_leads (hleads.skip (Step.skips_ofPath d))]
  split <;> rfl

end Files

/-! ## 3. What is run -/

namespace Machine

variable {m : Machine}

/-- Opens what has been found at a place to be executed. -/
def openPlace (m : Machine) : Except Errno Place → Except Errno File
  | .error e => .error e
  | .ok p =>
    match m.files.at? p with
    | some (.file f) =>
      if !f.executable then .error .permission
      else if m.isHeld p.base then .error .textBusy
      else .ok f
    | _ => .error .permission

theorem openExecutable_eq {path : String} (h : path ≠ "") :
    m.openExecutable path = m.openPlace (m.files.findPlace m.place path) := by
  rw [openExecutable, if_neg h]
  cases m.files.findPlace m.place path <;> rfl

/-- Executes a file that has been opened; `path` is the path it was opened by. -/
def executeFile (m : Machine) (scripts : Nat) (path name : String) (arguments : List String) :
    Except Errno File → Except Errno Completed
  | .error e => .error e
  | .ok f =>
    match scripts with
    | 0 => .error .tooManyLinks
    | scripts + 1 =>
      match Image.ofContent? f.content with
      | none => .error .execFormat
      | some .shell => .ok (m.runShell name arguments)
      | some (.script interpreter argument) =>
        m.execute scripts (textOf interpreter) (textOf interpreter)
          ((argument.map textOf).toList ++ path :: arguments)

theorem execute_eq (scripts : Nat) (path name : String) (arguments : List String) :
    m.execute scripts path name arguments =
      m.executeFile scripts path name arguments (m.openExecutable path) := by
  cases scripts <;> (rw [execute]; cases m.openExecutable path <;> rfl)

/-- Of one path there is nothing to choose. -/
theorem executeFirst_singleton (name : String) (arguments : List String) (path : String) :
    m.executeFirst name arguments none .noEntry [path] =
      m.execute scriptLimit path name arguments := by
  rw [executeFirst]
  cases m.execute scriptLimit path name arguments with
  | ok done => rfl
  | error e =>
    dsimp only
    rw [executeFirst]
    split <;> rfl

/-- A launch goes wrong at once when it has something that cannot be handed on. -/
theorem launch_eq (commandLine : List String) (path : Path) :
    m.launch commandLine path =
      if (path.text :: commandLine).any hasNul then .error .nulByte
      else (m.executeFirst (commandLine.headD "") commandLine.tail none .noEntry
        (m.candidates path.text)).mapError (·.fault path.text) := by
  unfold launch
  split
  · rfl
  · cases m.executeFirst (commandLine.headD "") commandLine.tail none .noEntry
      (m.candidates path.text) <;> rfl

/-- The directory is the working directory, written with dots and slashes alone. -/
def IsHere (d : String) : Prop := Path.ofText d = {}

instance (d : String) : Decidable (IsHere d) := inferInstanceAs (Decidable (_ = _))

/-- **The path of an entry has a slash**, unless its directory is written as the working
    directory. -/
theorem contains_slash_entryPath {d : String} (hd : d ≠ "") (n : Name) :
    (entryPath d n.text).text.toList.contains '/' = true ↔ ¬ IsHere d := by
  have hentry := entryPath_eq hd n
  have hsegments : (entryPath d n.text).segments ≠ [] := by simp [hentry]
  rw [Path.toList_text hsegments, hentry, List.contains_iff_mem, IsHere]
  obtain ⟨anchor, segments⟩ := Path.ofText d
  cases anchor with
  | root =>
    have hslash : '/' ∈ (Anchor.text .root).toList := by decide
    exact ⟨fun _ => nofun, fun _ => List.mem_append_left _ hslash⟩
  | doubleRoot =>
    have hslash : '/' ∈ (Anchor.text .doubleRoot).toList := by decide
    exact ⟨fun _ => nofun, fun _ => List.mem_append_left _ hslash⟩
  | relative =>
    cases segments with
    | nil => exact ⟨fun h => absurd h n.isNameText.no_slash, fun h => absurd rfl h⟩
    | cons s ss =>
      have hslash : '/' ∈ Path.body (s :: (ss ++ [.down n])) := by
        obtain ⟨t, ts, hts⟩ := List.exists_cons_of_ne_nil (l := ss ++ [.down n]) (by simp)
        rw [hts]
        exact List.mem_append_right s.text.toList List.mem_cons_self
      exact ⟨fun _ => nofun, fun _ => hslash⟩

theorem candidates_entryPath {d : String} (hd : d ≠ "") (n : Name) :
    m.candidates (entryPath d n.text).text =
      if IsHere d then m.executableDirectories.map (below · (entryPath d n.text).text)
      else [(entryPath d n.text).text] := by
  have hslash := contains_slash_entryPath hd n
  unfold candidates
  by_cases hhere : IsHere d
  · rw [if_neg (fun h => hslash.mp h hhere), if_pos hhere]
  · rw [if_pos (hslash.mpr hhere), if_neg hhere]

/-- The path of an entry of the working directory is the name alone. -/
theorem text_entryPath_here {d : String} (hd : d ≠ "") (n : Name) (hhere : IsHere d) :
    (entryPath d n.text).text = n.text := by
  have hentry := entryPath_eq hd n
  have hsegments : (entryPath d n.text).segments ≠ [] := by simp [hentry]
  refine String.toList_inj.mp ?_
  rw [Path.toList_text hsegments, hentry, hhere]
  rfl

/-- The directory that dots name is the one the machine is in. -/
theorem findsAt_here {d : String} {p : Place} {n : Name} (h : m.FindsAt d p n)
    (hhere : IsHere d) : p = m.place := by
  obtain ⟨-, links, hleads⟩ := Files.leads_of_findDirectory h.directory
  have hskips := Step.skips_ofPath d
  have hrelative : Files.startOf m.place d.toList = m.place := by
    rw [Files.startOf, Path.isRooted_typed, hhere]
    rfl
  rw [hhere] at hskips
  rw [hrelative] at hleads
  cases hleads.skip hskips
  rfl

/-- A name that stands for a file has been searched for. -/
theorem search_of_identify {searchPath name : String} {path : Path}
    (h : (m.identify reservedWords searchPath name).2 = .ok (.external path)) :
    (m.searchIn name (searchDirectories searchPath)).2 = .ok (some path) := by
  cases hb : Builtin.ofName? name with
  | some b =>
    rw [identify_of_builtin hb] at h
    cases h
  | none =>
    rw [identify_of_not_builtin hb] at h
    unfold search at h
    cases hs : (m.searchIn name (searchDirectories searchPath)).2 with
    | error f =>
      rw [hs] at h
      cases h
    | ok found =>
      rw [hs] at h
      cases found with
      | none => cases h
      | some found =>
        cases h
        rfl

/-- **What is run of a command that has been found.** It is an entry of the directory that settles
    the search. Nothing runs when something cannot be handed on. The entry itself is opened, unless
    its path has grown too long; and for a directory that is written as the working directory the
    bare name is looked for along the `PATH` of the environment in its place. -/
theorem launch_identified {searchPath name : String} {path : Path}
    (h : (m.identify reservedWords searchPath name).2 = .ok (.external path)) :
    ∃ d p n links, m.Settles name (searchDirectories searchPath) d ∧ m.FindsAt d p n ∧
      n.text = name ∧ path = entryPath d name ∧ (IsHere d → p = m.place) ∧
      m.files.Leads linkLimit (Files.startOf m.place d.toList) (Step.ofPath d.toList) links p ∧
      ∀ commandLine : List String, m.launch commandLine path =
        if (path.text :: commandLine).any hasNul then .error .nulByte
        else (if IsHere d then
            m.executeFirst (commandLine.headD "") commandLine.tail none .noEntry
              (m.executableDirectories.map (below · name))
          else
            m.executeFile scriptLimit path.text (commandLine.headD "") commandLine.tail
              (if pathLimit ≤ path.text.utf8ByteSize then .error .nameTooLong
              else m.openPlace (m.files.enter links p n))).mapError (·.fault path.text) := by
  obtain ⟨d, hsettles, rfl⟩ := searchIn_found (search_of_identify h)
  have hholds : m.holds d name = .ok true := by
    obtain ⟨before, after, -, hholds, -⟩ := hsettles
    exact hholds
  obtain ⟨p, n, hfinds, rfl⟩ := findsAt_of_holds hholds
  obtain ⟨hd, -⟩ := Files.leads_of_findDirectory hfinds.directory
  obtain ⟨links, hleads, hfind⟩ := Files.find_entryPath hfinds.directory n
  refine ⟨d, p, n, links, hsettles, hfinds, rfl, rfl, findsAt_here hfinds, hleads, ?_⟩
  intro commandLine
  rw [launch_eq, candidates_entryPath hd]
  by_cases hhere : IsHere d
  · simp only [if_pos hhere, text_entryPath_here hd n hhere]
  · have hopen := openExecutable_eq (m := m) (Files.text_entryPath_ne hd n)
    rw [if_neg hhere, if_neg hhere, executeFirst_singleton, execute_eq, hopen, hfind]
    split
    · rfl
    · split <;> rfl

/-- A machine with two programs of one name: one stands in the working directory, the other where
    the environment looks for executables. -/
def twoPrograms : Machine :=
  let bare := CommandLine.memoryMachine [("PATH", "/os")]
  let program (directory word : String) (files : Files) : Files :=
    files.plant (CommandLine.locationOf (.ofText (directory ++ "/x")))
      (.file ⟨Bytes.ofText ("#!/bin/sh\necho " ++ word ++ "\n"), true⟩)
  { bare with
    files := program "/os" "there" (program "/w" "here" bare.files)
    place := ⟨CommandLine.locationOf (.ofText "/w"), 0⟩ }

/-- Reached by its parent, the program of the working directory is found and run. -/
theorem launch_identified_by_parent :
    (twoPrograms.identify reservedWords "../w/." "x").2 =
        .ok (.external (entryPath "../w/." "x")) ∧
      twoPrograms.launch ["x"] (entryPath "../w/." "x") = .ok ⟨Bytes.ofLine "here", [], 0⟩ := by
  have hidentify : (twoPrograms.identify reservedWords "../w/." "x").2 =
      .ok (.external (entryPath "../w/." "x")) := by decide +kernel
  refine ⟨hidentify, ?_⟩
  obtain ⟨d, p, n, links, ⟨before, after, hsplit, -⟩, hfinds, hn, -, -, -, hlaunch⟩ :=
    launch_identified hidentify
  -- the search path has one directory, and that is where the machine is
  have hd : d = "../w/." := by
    have hds : searchDirectories "../w/." = ["../w/."] := by decide +kernel
    have hmem : d ∈ before ++ d :: after := by simp
    rw [← hsplit, hds] at hmem
    exact List.mem_singleton.mp hmem
  have hp : p = twoPrograms.place := by
    have hwalked : twoPrograms.files.findDirectory twoPrograms.place "../w/." =
        .ok twoPrograms.place := by decide +kernel
    have hfound := hfinds.directory
    rw [hd, hwalked] at hfound
    exact (Except.ok.inj hfound).symm
  have hn : n = ⟨"x", by decide⟩ := by
    obtain ⟨text, valid⟩ := n
    cases hn
    rfl
  subst hd hp hn
  have hentry : twoPrograms.files.HasEntry twoPrograms.place ⟨"x", by decide⟩
      (.file ⟨Bytes.ofText "#!/bin/sh\necho here\n", true⟩) :=
    ⟨by decide +kernel, by decide +kernel, by decide +kernel, by decide +kernel⟩
  rw [hlaunch, if_neg (by decide +kernel), if_neg (by decide +kernel), if_neg (by decide +kernel),
    Files.enter_of_entry hentry nofun]
  decide +kernel

/-- The same directory written as a dot: the entry is found there and could be run, and the other
    program runs in its place; where the environment has none, nothing runs. -/
theorem launch_not_identified :
    (twoPrograms.identify reservedWords "." "x").2 = .ok (.external (entryPath "." "x")) ∧
      twoPrograms.openPlace (twoPrograms.files.enter linkLimit twoPrograms.place ⟨"x", by decide⟩) =
        .ok ⟨Bytes.ofText "#!/bin/sh\necho here\n", true⟩ ∧
      twoPrograms.launch ["x"] (entryPath "." "x") = .ok ⟨Bytes.ofLine "there", [], 0⟩ ∧
      ({ twoPrograms with environment := [("PATH", "/none")] } : Machine).launch ["x"]
        (entryPath "." "x") = .error (Errno.noEntry.fault "x") := by
  decide +kernel

end Machine

end LineShell
