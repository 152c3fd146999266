import Mathlib.Data.List.Find
import LineShell.Proofs.Landing
import LineShell.Proofs.Lookup

/-!
# Redirections and what the command is

The sinks of a line are opened before anybody asks what its command is, so that the search looks at
files that the redirections of the line have already changed. It can see one thing of that alone: a
new entry by the name of the command.

* `Node.Touched` is what opening files does at one location: nothing, or a regular file is emptied,
  or a new one is there. `Shell.Opens.nodes` is that for the sinks of a line;
* `Files.SameWays` are trees that differ in regular files alone. The ways to a directory go through
  directories and links, so that the same directories are found in both
  (`Files.SameWays.findDirectory_iff`), even where a file has taken the place of a missing one;
* `Machine.Gains` is a directory that has got a new entry, and `Machine.Touched.has_iff` says that
  the entries of a directory are otherwise what they were;
* `Shell.identity_of_redirected` compares a line with the same line without its redirections.
-/

namespace LineShell

/-! ## 1. What opening files does -/

/-- What stands at a location before and after files have been opened for redirections: the same, or
    a regular file that has been emptied, or a new empty file where nothing was. -/
inductive Node.Touched : Option Node → Option Node → Prop where
  | same (x : Option Node) : Touched x x
  | emptied (f : File) : Touched (some (.file f)) (some (.file { f with content := [] }))
  | created : Touched none (some (.file {}))

theorem Node.Touched.trans {x y z : Option Node} (h : Node.Touched x y) (k : Node.Touched y z) :
    Node.Touched x z := by
  cases h with
  | same => exact k
  | emptied f => cases k <;> exact .emptied f
  | created => cases k <;> exact .created

namespace Shell

/-- Opening a sink does one of these things at each location. -/
theorem Lands.nodes {s : Shell} {target : Option Target} {files : Files} {sink : Sink}
    (h : s.Lands target files sink) (k : Location) :
    Node.Touched (s.machine.files.get? k) (files.get? k) := by
  cases h with
  | stream c => exact .same _
  | device hnames => exact .same _
  | @file t l files hnames hturns =>
    by_cases hk : k = l
    · subst hk
      have hhere : files.get? k = some (.file _) := hturns.here
      rw [hhere]
      obtain hnone | ⟨f, hf⟩ := hnames.takes
      · have hkept : t.kept [] = [] := by unfold Target.kept; split <;> rfl
        rw [fileAt, Files.fileAt, hnone, hkept]
        exact .created
      · rw [fileAt, Files.fileAt_of_get? hf, hf, Target.kept]
        split
        · exact .same _
        · exact .emptied f
    · rw [hturns.elsewhere k hk]
      exact .same _

/-- The sinks of a line do no more. -/
theorem Opens.nodes {s : Shell} {plan : Plan} {j : Job} (h : s.Opens plan j) (k : Location) :
    Node.Touched (s.machine.files.get? k) (j.shell.machine.files.get? k) := by
  obtain ⟨ho, he⟩ := h
  exact ((lands_of_openSink ho).nodes k).trans ((lands_of_openSink he).nodes k)

end Shell

/-! ## 2. The ways to a directory -/

namespace Files

variable {files files' : Files}

/-- The trees differ in regular files alone: what else stands in one of them stands in the other. -/
def SameWays (files files' : Files) : Prop :=
  ∀ l node, (∀ f, node ≠ .file f) → (files.get? l = some node ↔ files'.get? l = some node)

theorem sameWays_of_nodes (h : ∀ l, Node.Touched (files.get? l) (files'.get? l)) :
    files.SameWays files' := by
  intro l node hnode
  have hl := h l
  generalize files.get? l = x at hl
  generalize files'.get? l = y at hl
  cases hl with
  | same => exact Iff.rfl
  | emptied f =>
    exact iff_of_false (fun heq => hnode _ (Option.some.inj heq).symm)
      fun heq => hnode _ (Option.some.inj heq).symm
  | created => exact iff_of_false nofun fun heq => hnode _ (Option.some.inj heq).symm

theorem SameWays.symm (h : files.SameWays files') : files'.SameWays files :=
  fun l node hnode => (h l node hnode).symm

theorem SameWays.directory (h : files.SameWays files') {l : Location}
    (hl : files.get? l = some .directory) : files'.get? l = some .directory :=
  (h l _ fun _ heq => by cases heq).mp hl

theorem SameWays.link (h : files.SameWays files') {l : Location} {target : String}
    (hl : files.get? l = some (.link target)) : files'.get? l = some (.link target) :=
  (h l _ fun _ heq => by cases heq).mp hl

theorem SameWays.isDirectoryAt (h : files.SameWays files') {p : Place}
    (hp : files.isDirectoryAt p = true) : files'.isDirectoryAt p = true := by
  unfold Files.isDirectoryAt at? at hp ⊢
  split at hp
  · next hkept =>
    rw [if_pos hkept]
    exact beq_iff_eq.mpr (h.directory (beq_iff_eq.mp hp))
  · next hlost =>
    rw [if_neg hlost]
    rfl

/-- A way to a directory starts in a directory. -/
theorem Leads.isDirectoryAt {links links' : Nat} {here there : Place} {steps : List Step}
    (h : files.Leads links here steps links' there) (hd : files.isDirectoryAt there = true) :
    files.isDirectoryAt here = true := by
  cases h with
  | done => exact hd
  | move hhere _ _ => exact hhere
  | enter hentry _ _ => exact hentry.directory
  | follow hentry _ => exact hentry.directory

/-- **A way to a directory goes through directories and links**, and leads there in the other tree
    as well. -/
theorem SameWays.leads (h : files.SameWays files') {links links' : Nat} {here there : Place}
    {steps : List Step} (hleads : files.Leads links here steps links' there)
    (hd : files.isDirectoryAt there = true) : files'.Leads links here steps links' there := by
  induction hleads with
  | done links here => exact .done links here
  | move hhere hnext _ ih => exact .move (h.isDirectoryAt hhere) hnext (ih hd)
  | @enter links links' here there n node rest hentry hnode hrest ih =>
    -- the way goes on behind the entry, so that the entry is a directory
    have hnext : files.get? (n :: here.base) = some .directory :=
      beq_iff_eq.mp (hrest.isDirectoryAt hd)
    have hentry' : files'.HasEntry here n .directory :=
      ⟨h.isDirectoryAt hentry.directory, hentry.kept, hentry.short, h.directory hnext⟩
    exact .enter hentry' nofun (ih hd)
  | follow hentry _ ih =>
    exact .follow ⟨h.isDirectoryAt hentry.directory, hentry.kept, hentry.short,
      h.link hentry.node⟩ (ih hd)

/-- A directory is found where a way leads that is not too long. -/
theorem findDirectory_eq_ok_iff {start p : Place} {d : String} :
    files.findDirectory start d = .ok p ↔
      d ≠ "" ∧ d.utf8ByteSize < pathLimit ∧ files.isDirectoryAt p = true ∧
        ∃ links, files.Leads linkLimit (startOf start d.toList) (Step.ofPath d.toList) links p := by
  constructor
  · intro hfind
    obtain ⟨hne, links, hleads⟩ := leads_of_findDirectory hfind
    have hfound := found_of_findDirectory hfind
    refine ⟨hne, ?_, ?_, links, hleads⟩
    · rw [find_eq hne] at hfound
      split at hfound
      · cases hfound
      · next hshort => exact Nat.not_le.mp hshort
    · unfold findDirectory at hfind
      rw [findPlace_eq, hfound] at hfind
      dsimp only [placeOf] at hfind
      split at hfind
      · next hd => exact hd
      · cases hfind
  · rintro ⟨hne, hshort, hd, links, hleads⟩
    have hwalk := walk_of_leads hleads []
    rw [List.append_nil] at hwalk
    unfold findDirectory
    rw [findPlace_eq, find_eq hne, if_neg (Nat.not_le.mpr hshort), hwalk]
    have hfound : files.walk false links p [] = .ok (.found p) := by cases links <;> rfl
    rw [hfound]
    exact if_pos hd

/-- **The same directories are found in both trees.** -/
theorem SameWays.findDirectory_iff (h : files.SameWays files') (start p : Place) (d : String) :
    files'.findDirectory start d = .ok p ↔ files.findDirectory start d = .ok p := by
  have hforth : ∀ {files files' : Files}, files.SameWays files' →
      files.findDirectory start d = .ok p → files'.findDirectory start d = .ok p := by
    intro files files' h hfind
    obtain ⟨hne, hshort, hd, links, hleads⟩ := findDirectory_eq_ok_iff.mp hfind
    exact findDirectory_eq_ok_iff.mpr ⟨hne, hshort, h.isDirectoryAt hd, links, h.leads hleads hd⟩
  exact ⟨hforth h.symm, hforth h⟩

end Files

/-! ## 3. New entries -/

namespace Machine

/-- From one machine to the other nothing has happened but that files have been opened. -/
structure Touched (m m' : Machine) : Prop where
  place : m'.place = m.place
  nodes : ∀ l, Node.Touched (m.files.get? l) (m'.files.get? l)

/-- From one machine to the other the directory that `d` names, which can be listed, has got a new
    entry: an empty file. -/
structure Gains (m m' : Machine) (d : String) (p : Place) (n : Name) : Prop where
  clean : hasNul d = false
  directory : m.files.findDirectory m.place d = .ok p
  kept : p.lost = 0
  missing : m.files.get? (n :: p.base) = none
  created : m'.files.get? (n :: p.base) = some (.file {})

variable {m m' : Machine} {name searchPath : String}

/-- **Opening files adds entries to directories, and does nothing else that a search can see.** -/
theorem Touched.has_iff (h : m.Touched m') (d name : String) :
    m'.Has d name ↔ m.Has d name ∨ ∃ p n, n.text = name ∧ m.Gains m' d p n := by
  have hfind := fun p => (Files.sameWays_of_nodes h.nodes).findDirectory_iff m.place p d
  constructor
  · rintro ⟨p, n, ⟨hclean, hdirectory, hkept, node, hentry⟩, hname⟩
    rw [h.place] at hdirectory
    have hdirectory := (hfind p).mp hdirectory
    have hnode := h.nodes (n :: p.base)
    rw [hentry] at hnode
    generalize hbefore : m.files.get? (n :: p.base) = x at hnode
    cases hnode with
    | same => exact .inl ⟨p, n, ⟨hclean, hdirectory, hkept, _, hbefore⟩, hname⟩
    | emptied f => exact .inl ⟨p, n, ⟨hclean, hdirectory, hkept, _, hbefore⟩, hname⟩
    | created => exact .inr ⟨p, n, hname, hclean, hdirectory, hkept, hbefore, hentry⟩
  · rintro (⟨p, n, ⟨hclean, hdirectory, hkept, node, hentry⟩, hname⟩ | ⟨p, n, hname, hgains⟩)
    · have hnode := h.nodes (n :: p.base)
      rw [hentry] at hnode
      have hafter : ∃ node, m'.files.get? (n :: p.base) = some node := by
        generalize m'.files.get? (n :: p.base) = y at hnode
        cases hnode <;> exact ⟨_, rfl⟩
      exact ⟨p, n, ⟨hclean, h.place ▸ (hfind p).mpr hdirectory, hkept, hafter⟩, hname⟩
    · exact ⟨p, n, ⟨hgains.clean, h.place ▸ (hfind p).mpr hgains.directory, hgains.kept, _,
        hgains.created⟩, hname⟩

/-- A directory that gains an entry did not have it. -/
theorem Gains.not_has {d : String} {p : Place} {n : Name} (h : m.Gains m' d p n) :
    ¬ m.Has d n.text := by
  rintro ⟨q, k, ⟨-, hdirectory, -, node, hentry⟩, hk⟩
  cases h.directory.symm.trans hdirectory
  obtain ⟨text, valid⟩ := n
  cases hk
  cases h.missing.symm.trans hentry

/-- A directory gains an entry exactly if it has one that it did not have. -/
theorem Touched.gains_iff (h : m.Touched m') (d name : String) :
    (∃ p n, n.text = name ∧ m.Gains m' d p n) ↔ ¬ m.Has d name ∧ m'.Has d name := by
  rw [h.has_iff]
  constructor
  · intro hgains
    refine ⟨?_, .inr hgains⟩
    obtain ⟨p, n, rfl, hgains⟩ := hgains
    exact hgains.not_has
  · rintro ⟨hmissing, hhas | hgains⟩
    · exact absurd hhas hmissing
    · exact hgains

/-! ## 4. Names -/

/-- Where the search path can be handed on, every name stands for something. -/
theorem exists_identify_eq (m : Machine) (reserved : ReservedWords) (name : String)
    (hclean : ∀ d ∈ searchDirectories searchPath, hasNul d = false) :
    ∃ identity, (m.identify reserved searchPath name).2 = .ok identity := by
  obtain ⟨-, h⟩ | ⟨-, ⟨b, h⟩ | ⟨message, h⟩⟩ := m.identify_cases reserved searchPath name
  · rw [search, searchIn_eq_find? hclean] at h
    exact ⟨_, h⟩
  · exact ⟨_, h⟩
  · exact ⟨_, h⟩

/-- What a name stands for depends on the files by what a search finds alone. -/
theorem identify_congr (h : (m'.search searchPath name).2 = (m.search searchPath name).2)
    (reserved : ReservedWords) :
    (m'.identify reserved searchPath name).2 = (m.identify reserved searchPath name).2 := by
  unfold identify
  split
  · rfl
  · rfl
  · exact congrArg (Except.map _) h

/-- **Without a new entry of its name** in a directory of the search path a command stays what it
    is. -/
theorem Touched.identify_eq (h : m.Touched m')
    (hclean : ∀ d ∈ searchDirectories searchPath, hasNul d = false)
    (hnone : ∀ d ∈ searchDirectories searchPath, ∀ p n, n.text = name → ¬ m.Gains m' d p n)
    (reserved : ReservedWords) :
    (m'.identify reserved searchPath name).2 = (m.identify reserved searchPath name).2 := by
  have hsame : ∀ d ∈ searchDirectories searchPath,
      decide (m'.Has d name) = decide (m.Has d name) := by
    intro d hd
    refine decide_eq_decide.mpr ((h.has_iff d name).trans (or_iff_left ?_))
    rintro ⟨p, n, hn, hgains⟩
    exact hnone d hd p n hn hgains
  refine identify_congr ?_ reserved
  rw [search, search, searchIn_eq_find? hclean, searchIn_eq_find? hclean, List.find?_congr hsame]

/-- **A new entry behind no other one** is what its name stands for then. -/
theorem Touched.identify_new (h : m.Touched m')
    (hclean : ∀ d ∈ searchDirectories searchPath, hasNul d = false) {before after : List String}
    {d : String} {p : Place} {n : Name}
    (hsplit : searchDirectories searchPath = before ++ d :: after) (hgains : m.Gains m' d p n)
    (hbefore : ∀ e ∈ before, ¬ m'.Has e n.text) {reserved : ReservedWords}
    (hunknown : IsUnknown reserved n.text) :
    (m'.identify reserved searchPath n.text).2 =
      .ok (.external ⟨(Path.ofText d).anchor, (Path.ofText d).segments ++ [.down n]⟩) := by
  have hd : m'.Has d n.text := (h.has_iff d n.text).mpr (.inr ⟨p, n, rfl, hgains⟩)
  have hfind : (searchDirectories searchPath).find? (m'.Has · n.text) = some d :=
    List.find?_eq_some_iff_append.mpr ⟨decide_eq_true hd, before, after, hsplit,
      fun e he => by simpa using hbefore e he⟩
  have hne : d ≠ "" := (Files.leads_of_findDirectory hgains.directory).1
  refine (identify_external_iff reserved searchPath _).mpr ⟨hunknown, ?_⟩
  rw [search, searchIn_eq_find? hclean, hfind, ← entryPath_eq hne n]
  rfl

end Machine

/-! ## 5. A line with and without redirections -/

/-- The plan without its redirections. -/
def Plan.unredirected (p : Plan) : Plan := { p with output := none, error := none }

namespace Shell

theorem Opens.touched {s : Shell} {plan : Plan} {j : Job} (h : s.Opens plan j) :
    s.machine.Touched j.shell.machine := ⟨h.keeps.place, h.nodes⟩

/-- Without redirections a line leaves the shell as it is until its command is known. -/
theorem Opens.shell_eq {s : Shell} {plan : Plan} {k : Job} (h : s.Opens plan.unredirected k) :
    k.shell = s := by
  obtain ⟨ho, he⟩ := h
  cases ho
  cases he
  rfl

/-- **Redirections do not choose the command.** A plan stands for the same with its redirections as
    without them, unless opening their files gives a directory of the search path that can be listed
    a new entry by the name of the command. If it does, if no directory before that one has such an
    entry and if the shell does not know the name itself, the plan stands for the new file, which is
    empty. -/
theorem identity_of_redirected {s : Shell} {plan : Plan} {j k : Job}
    (hclean : ∀ d ∈ searchDirectories s.searchPath, Machine.hasNul d = false)
    (hopens : s.Opens plan j) (hplain : s.Opens plan.unredirected k) :
    ∃ plain redirected, (k.shell.identify plan.unredirected.command).2 = .ok plain ∧
      (j.shell.identify plan.command).2 = .ok redirected ∧
      ((∀ d ∈ searchDirectories s.searchPath, ∀ p n, n.text = plan.command →
          ¬ s.machine.Gains j.shell.machine d p n) → redirected = plain) ∧
      ∀ before d after p n, searchDirectories s.searchPath = before ++ d :: after →
        n.text = plan.command → s.machine.Gains j.shell.machine d p n →
          (∀ e ∈ before, ¬ j.shell.machine.Has e plan.command) →
            Machine.IsUnknown reservedWords plan.command →
              redirected =
                .external ⟨(Path.ofText d).anchor, (Path.ofText d).segments ++ [.down n]⟩ := by
  have htouched := hopens.touched
  obtain ⟨plain, hk⟩ := s.machine.exists_identify_eq reservedWords plan.command hclean
  obtain ⟨redirected, hj⟩ := j.shell.machine.exists_identify_eq reservedWords plan.command hclean
  refine ⟨plain, redirected, ?_, ?_, ?_, ?_⟩
  · rw [hplain.shell_eq]
    exact hk
  · rw [← hopens.keeps.searchPath] at hj
    exact hj
  · intro hnone
    rw [htouched.identify_eq hclean hnone, hk] at hj
    exact (Except.ok.inj hj).symm
  · intro before d after p n hsplit hn hgains hbefore hunknown
    rw [← hn] at hbefore hunknown hj
    rw [htouched.identify_new hclean hsplit hgains hbefore hunknown] at hj
    exact (Except.ok.inj hj).symm

/-- Two directories, of which the second has a program. -/
def twoShelves : Shell where
  machine :=
    { files := (({} : Files).plant (CommandLine.locationOf (Path.ofText "/a")) .directory).plant
        (CommandLine.locationOf (Path.ofText "/b/x")) (.file ⟨Bytes.ofText "#!/bin/sh\n", true⟩) }
  searchPath := "/none:/a:/b"

/-- The program is emptied by its own redirection, and a file takes the place of the missing
    directory: the plan stands for the program. With a new file of its name in the first directory
    that is there, it stands for that file. -/
theorem identity_of_redirected_new :
    (∃ j, twoShelves.Opens ⟨"x", [], some ⟨"/b/x", false⟩, some ⟨"/none", true⟩⟩ j ∧
      (j.shell.identify "x").2 = .ok (.external (Path.ofText "/b/x"))) ∧
    ∃ j, twoShelves.Opens ⟨"x", [], some ⟨"/b/x", false⟩, some ⟨"/a/x", true⟩⟩ j ∧
      (j.shell.identify "x").2 = .ok (.external (Path.ofText "/a/x")) := by
  have hclean : ∀ d ∈ searchDirectories twoShelves.searchPath, Machine.hasNul d = false := by
    decide +kernel
  constructor
  · obtain ⟨j, hopens, hsame⟩ : ∃ j,
        twoShelves.Opens ⟨"x", [], some ⟨"/b/x", false⟩, some ⟨"/none", true⟩⟩ j ∧
          ∀ d ∈ searchDirectories twoShelves.searchPath,
            ¬ (¬ twoShelves.machine.Has d "x" ∧ j.shell.machine.Has d "x") :=
      ⟨_, .intro rfl rfl, by decide +kernel⟩
    obtain ⟨plain, redirected, hk, hj, hequal, -⟩ :=
      identity_of_redirected hclean hopens (.intro rfl rfl)
    have hnone : ∀ d ∈ searchDirectories twoShelves.searchPath, ∀ p n, n.text = "x" →
        ¬ twoShelves.machine.Gains j.shell.machine d p n := fun d hd p n hn hgains =>
      hsame d hd ((hopens.touched.gains_iff d "x").mp ⟨p, n, hn, hgains⟩)
    have hplain : (twoShelves.identify "x").2 = .ok (.external (Path.ofText "/b/x")) := by
      decide +kernel
    refine ⟨j, hopens, ?_⟩
    rw [hequal hnone] at hj
    exact hj.trans (hk.symm.trans hplain)
  · obtain ⟨j, hopens, hmissing, hhas, hbefore⟩ : ∃ j,
        twoShelves.Opens ⟨"x", [], some ⟨"/b/x", false⟩, some ⟨"/a/x", true⟩⟩ j ∧
          ¬ twoShelves.machine.Has "/a" "x" ∧ j.shell.machine.Has "/a" "x" ∧
            ∀ e ∈ ["/none"], ¬ j.shell.machine.Has e "x" :=
      ⟨_, .intro rfl rfl, by decide +kernel, by decide +kernel, by decide +kernel⟩
    obtain ⟨p, n, hn, hgains⟩ := (hopens.touched.gains_iff "/a" "x").mpr ⟨hmissing, hhas⟩
    obtain ⟨plain, redirected, -, hj, -, hnew⟩ :=
      identity_of_redirected hclean hopens (.intro rfl rfl)
    have hredirected := hnew ["/none"] "/a" ["/b"] p n (by decide +kernel) hn hgains hbefore
      ⟨by decide +kernel, by decide +kernel⟩
    have hentry : n = ⟨"x", by decide⟩ := by
      obtain ⟨text, valid⟩ := n
      cases hn
      rfl
    refine ⟨j, hopens, hj.trans ?_⟩
    rw [hredirected, hentry]
    decide +kernel

end Shell

end LineShell
