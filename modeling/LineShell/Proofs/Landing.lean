import LineShell.Proofs.Outcome
import LineShell.Proofs.Walking

/-!
# What a redirection does to its file

A redirection acts on its file twice: when it is opened, before anybody knows what the command is,
and when the bytes of the command arrive.

* `Files.Turns` is a tree in which one file has other content and nothing else differs;
  `Files.openFile_of_names` and `Files.receive_file` say which content an open and arriving bytes
  leave, and `Shell.Lands` has one rule for each thing that opening a sink can come to;
* `Files.Names` is the file that a path names, there or not yet, and `Files.Names.turns` says that
  it names the same one while files are opened and written;
* `Sink.LandsAt` is a sink that has been opened on a file. It keeps its own offset, so that of two
  sinks on one file the second to arrive may write over the first: `landed_landed` says what is left
  of the two (`Target.met`);
* `Shell.settle_elsewhere`, `Shell.settle_output`, `Shell.settle_error` and `Shell.settle_both` are
  one location after the sinks of a line have taken their bytes, by which sinks are on it.
-/

namespace LineShell

/-! ## 1. Contents -/

/-- What a redirection leaves of the content that its file has. -/
def Target.kept (t : Target) (content : Bytes) : Bytes := if t.append then content else []

/-- The content of a file after bytes have arrived: at its end, or else over its beginning. -/
def landed (append : Bool) (content data : Bytes) : Bytes :=
  if append then content ++ data else data ++ content.drop data.length

theorem landed_nil (append : Bool) (content : Bytes) : landed append content [] = content := by
  cases append
  · rfl
  · exact List.append_nil content

theorem landed_kept (t : Target) (content data : Bytes) :
    landed t.append (t.kept content) data = t.kept content ++ data := by
  unfold landed Target.kept
  cases t.append with
  | true => rfl
  | false => exact (congrArg (data ++ ·) List.drop_nil).trans (List.append_nil data)

/-- The content of a file that two redirections name, after the bytes for the first to arrive and
    then those for the second: they follow each other when the second appends, else they stand over
    the beginning of what the first has written. -/
def Target.met (first second : Target) (content x y : Bytes) : Bytes :=
  if second.append then first.kept content ++ x ++ y else y ++ x.drop y.length

theorem landed_landed (first second : Target) (content x y : Bytes) :
    landed second.append (landed first.append (second.kept (first.kept content)) x) y =
      first.met second content x y := by
  cases happend : second.append with
  | true =>
    have hkept : second.kept (first.kept content) = first.kept content := if_pos happend
    rw [hkept, landed_kept, Target.met, if_pos happend, landed, if_pos rfl]
  | false =>
    have hkept : second.kept (first.kept content) = [] :=
      if_neg (Bool.eq_false_iff.mp happend)
    have hempty : landed first.append [] x = x := by
      cases first.append
      · exact (congrArg (x ++ ·) List.drop_nil).trans (List.append_nil x)
      · rfl
    rw [hkept, hempty, Target.met, if_neg (Bool.eq_false_iff.mp happend), landed,
      if_neg Bool.false_ne_true]

theorem Target.kept_comm (t u : Target) (content : Bytes) :
    t.kept (u.kept content) = u.kept (t.kept content) := by
  unfold kept
  cases t.append <;> cases u.append <;> rfl

/-! ## 2. One file of a tree -/

namespace Files

variable {files files' : Files} {l : Location}

/-- The regular file at a location; a new one where there is none. -/
def fileAt (files : Files) (l : Location) : File :=
  match files.get? l with
  | some (.file f) => f
  | _ => {}

theorem fileAt_of_get? {f : File} (h : files.get? l = some (.file f)) : files.fileAt l = f := by
  rw [fileAt, h]

/-- The second tree has the file of the first one at `l`, with other content. -/
def Rewrites (files files' : Files) (l : Location) (content : Bytes) : Prop :=
  files'.get? l = some (.file { files.fileAt l with content := content })

/-- Nothing but the file at `l` differs, which has the content in the second tree. -/
structure Turns (files files' : Files) (l : Location) (content : Bytes) : Prop where
  here : files.Rewrites files' l content
  elsewhere : ∀ k, k ≠ l → files'.get? k = files.get? k

theorem turns_set (files : Files) {l : Location} (hl : l ≠ []) (content : Bytes) :
    files.Turns (files.set l (.file { files.fileAt l with content := content })) l content := by
  obtain ⟨n, d, rfl⟩ := List.exists_cons_of_ne_nil hl
  refine ⟨?_, fun k hk => ?_⟩
  · rw [Rewrites, get?_set, if_pos rfl]
  · rw [get?_set, if_neg hk]

theorem turns_refl {f : File} (h : files.get? l = some (.file f)) :
    files.Turns files l f.content := by
  refine ⟨?_, fun k hk => rfl⟩
  rw [Rewrites, fileAt_of_get? h, h]

/-! ## 3. The file that a path names -/

/-- A walk has ended at the regular file at `l`, or at the place where one would be. -/
inductive EndsAt (files : Files) : Spot → Location → Prop where
  | file {l : Location} {f : File} (h : files.get? l = some (.file f)) :
      EndsAt files (.found ⟨l, 0⟩) l
  | new (d : Location) (n : Name) : EndsAt files (.absent d n) (n :: d)

/-- A walk has not failed, and has ended there. -/
def LeadsTo (files : Files) (result : Except Errno Spot) (l : Location) : Prop :=
  ∃ spot, result = .ok spot ∧ files.EndsAt spot l

/-- The path names the regular file at `l`, or a file that is not there yet. -/
def Names (files : Files) (start : Place) (path : String) (l : Location) : Prop :=
  files.LeadsTo (files.find true start path) l

theorem Names.unique {start : Place} {path : String} {k : Location}
    (h : files.Names start path l) (h' : files.Names start path k) : l = k := by
  obtain ⟨spot, hfind, hends⟩ := h
  obtain ⟨spot', hfind', hends'⟩ := h'
  cases hfind.symm.trans hfind'
  cases hends <;> cases hends' <;> rfl

/-- What a walk has found free is free. -/
theorem get?_of_advance {creating : Bool} {follow : Place → List Step → Except Errno Spot}
    (hfollow : ∀ here steps d n, follow here steps = .ok (.absent d n) →
      files.get? (n :: d) = none)
    {here : Place} {steps : List Step} {d : Location} {n : Name}
    (h : files.advance creating follow here steps = .ok (.absent d n)) :
    files.get? (n :: d) = none := by
  induction steps generalizing here with
  | nil => cases h
  | cons step rest ih =>
    have hd := isDirectoryAt_of_advance h
    cases step with
    | stay => exact ih (by rwa [advance_move hd rfl] at h)
    | slash => exact ih (by rwa [advance_move hd rfl] at h)
    | up => exact ih (by rwa [advance_move hd rfl] at h)
    | enter m =>
      rw [advance_of_mayEnter (mayEnter_of_advance h)] at h
      cases hnode : files.get? (m :: here.base) with
      | none =>
        rw [hnode] at h
        dsimp only at h
        split at h
        · cases h
          exact hnode
        · cases h
      | some node =>
        rw [hnode] at h
        cases node with
        | link target => exact hfollow _ _ _ _ h
        | _ => exact ih h

theorem get?_of_walk {creating : Bool} {links : Nat} {here : Place} {steps : List Step}
    {d : Location} {n : Name} (h : files.walk creating links here steps = .ok (.absent d n)) :
    files.get? (n :: d) = none := by
  induction links generalizing here steps d n with
  | zero => exact get?_of_advance (fun _ _ _ _ hfollow => by cases hfollow) h
  | succ links ih => exact get?_of_advance (fun _ _ _ _ hfollow => ih hfollow) h

theorem get?_of_find {creating : Bool} {start : Place} {path : String} {d : Location} {n : Name}
    (h : files.find creating start path = .ok (.absent d n)) : files.get? (n :: d) = none := by
  unfold find at h
  split at h
  · cases h
  · split at h
    · cases h
    · exact get?_of_walk h

/-- There is a regular file at the location, or nothing. -/
def Takes (files : Files) (l : Location) : Prop :=
  files.get? l = none ∨ ∃ f, files.get? l = some (.file f)

theorem Names.takes {start : Place} {path : String} (h : files.Names start path l) :
    files.Takes l := by
  obtain ⟨spot, hfind, hends⟩ := h
  cases hends with
  | file hget => exact .inr ⟨_, hget⟩
  | new d n => exact .inl (get?_of_find hfind)

section

variable {k : Location} {content : Bytes}

/-- A file that has turned is a file still, and others are what they were. -/
theorem Turns.file (h : files.Turns files' k content) {f : File}
    (hget : files.get? l = some (.file f)) : ∃ g, files'.get? l = some (.file g) := by
  by_cases hl : l = k
  · subst hl
    exact ⟨_, h.here⟩
  · exact ⟨f, (h.elsewhere l hl).trans hget⟩

/-- No directory comes or goes. -/
theorem Turns.isDirectoryAt (h : files.Turns files' k content) (hk : files.Takes k) (p : Place) :
    files'.isDirectoryAt p = files.isDirectoryAt p := by
  unfold Files.isDirectoryAt at?
  split
  · by_cases hp : p.base = k
    · have hhere : files'.get? k = some (.file _) := h.here
      rw [hp, hhere]
      obtain hnone | ⟨f, hfile⟩ := hk
      · rw [hnone]
        rfl
      · rw [hfile]
        rfl
    · rw [h.elsewhere _ hp]
  · rfl

/-- A step into a name, when one file has turned: if it is that file, it is there now. -/
theorem Turns.enter (h : files.Turns files' k content) (hk : files.Takes k)
    {follow follow' : Place → List Step → Except Errno Spot} {here : Place} {n : Name}
    {rest : List Step} {spot : Spot}
    (hfollow : ∀ start steps, follow start steps = .ok spot →
      files'.LeadsTo (follow' start steps) l)
    (hrest : ∀ next, files.advance true follow next rest = .ok spot →
      files'.LeadsTo (files'.advance true follow' next rest) l)
    (hmay : files.MayEnter true here n rest) (hmay' : files'.MayEnter true here n rest)
    (hwalk : files.advance true follow here (.enter n :: rest) = .ok spot)
    (hends : files.EndsAt spot l) :
    files'.LeadsTo (files'.advance true follow' here (.enter n :: rest)) l := by
  rw [advance_of_mayEnter hmay] at hwalk
  rw [advance_of_mayEnter hmay']
  by_cases hn : n :: here.base = k
  · have hhere : files'.get? (n :: here.base) = some (.file _) := hn ▸ h.here
    rw [hhere]
    obtain hnone | ⟨f, hfile⟩ := hk
    · rw [hn, hnone] at hwalk
      dsimp only at hwalk
      split at hwalk
      · next hlast =>
        cases hwalk
        cases hends
        have hnil : rest = [] := by simpa using hlast
        subst hnil
        exact ⟨_, rfl, .file hhere⟩
      · cases hwalk
    · rw [hn, hfile] at hwalk
      exact hrest _ (hn ▸ hwalk)
  · rw [h.elsewhere _ hn]
    cases hnode : files.get? (n :: here.base) with
    | none =>
      rw [hnode] at hwalk
      dsimp only at hwalk ⊢
      split at hwalk
      · next hlast =>
        cases hwalk
        cases hends
        exact ⟨_, if_pos hlast, .new _ _⟩
      · cases hwalk
    | some node =>
      rw [hnode] at hwalk
      cases node with
      | link target => exact hfollow _ _ hwalk
      | _ => exact hrest _ hwalk

/-- What a walk ends at, it ends at when one file has turned. -/
theorem Turns.advance (h : files.Turns files' k content) (hk : files.Takes k)
    {follow follow' : Place → List Step → Except Errno Spot} {spot : Spot}
    (hfollow : ∀ start steps, follow start steps = .ok spot →
      files'.LeadsTo (follow' start steps) l)
    {here : Place} {steps : List Step}
    (hwalk : files.advance true follow here steps = .ok spot) (hends : files.EndsAt spot l) :
    files'.LeadsTo (files'.advance true follow' here steps) l := by
  induction steps generalizing here with
  | nil =>
    cases hwalk
    cases hends with
    | file hget =>
      obtain ⟨g, hg⟩ := h.file hget
      exact ⟨_, rfl, .file hg⟩
  | cons step rest ih =>
    have hd := isDirectoryAt_of_advance hwalk
    have hd' : files'.isDirectoryAt here = true := (h.isDirectoryAt hk here).trans hd
    have hmove : ∀ next, step.next? here = some next →
        files'.LeadsTo (files'.advance true follow' here (step :: rest)) l := by
      intro next hnext
      rw [advance_move hd hnext] at hwalk
      rw [advance_move hd' hnext]
      exact ih hwalk
    cases step with
    | stay => exact hmove _ rfl
    | slash => exact hmove _ rfl
    | up => exact hmove _ rfl
    | enter n =>
      have hmay := mayEnter_of_advance hwalk
      have hmay' : files'.MayEnter true here n rest :=
        ⟨hd', hmay.unslashed, hmay.kept, hmay.short⟩
      exact h.enter hk hfollow (fun _ hrest => ih hrest) hmay hmay' hwalk hends

theorem Turns.walk (h : files.Turns files' k content) (hk : files.Takes k) {links : Nat}
    {here : Place} {steps : List Step} {spot : Spot}
    (hwalk : files.walk true links here steps = .ok spot) (hends : files.EndsAt spot l) :
    files'.LeadsTo (files'.walk true links here steps) l := by
  induction links generalizing here steps with
  | zero => exact h.advance hk (fun _ _ hfollow => by cases hfollow) hwalk hends
  | succ links ih => exact h.advance hk (fun _ _ hfollow => ih hfollow) hwalk hends

/-- **A path names the file it has named**, when that file or another one has turned. -/
theorem Names.turns {start : Place} {path : String} (hnames : files.Names start path l)
    (h : files.Turns files' k content) (hk : files.Takes k) : files'.Names start path l := by
  obtain ⟨spot, hfind, hends⟩ := hnames
  unfold Names
  unfold find at hfind ⊢
  split at hfind
  · cases hfind
  · next hne =>
    split at hfind
    · cases hfind
    · next hshort =>
      rw [if_neg hne, if_neg hshort]
      exact h.walk hk hfind hends

end

/-! ## 4. Opening and writing -/

/-- **What opening a file does to it**: it begins with what the redirection leaves, and a new file
    is empty. The handle stands at its start. -/
theorem openFile_of_names {start : Place} {t : Target} (h : files.Names start t.path l) :
    ∃ files', files.openFile start t.path t.append = .ok (files', ⟨.file l, t.append, 0, []⟩) ∧
      files.Turns files' l (t.kept (files.fileAt l).content) := by
  obtain ⟨spot, hfind, hends⟩ := h
  unfold openFile
  rw [hfind]
  cases hends with
  | new d n =>
    have hnew : files.fileAt (n :: d) = {} := by rw [fileAt, get?_of_find hfind]
    have hempty : t.kept [] = [] := by unfold Target.kept; split <;> rfl
    have hturns := turns_set files (List.cons_ne_nil n d) []
    rw [hnew] at hturns
    refine ⟨_, rfl, ?_⟩
    rw [hnew, hempty]
    exact hturns
  | @file l f hget =>
    have hl : l ≠ [] := by
      rintro rfl
      cases hget
    have hat : files.at? ⟨l, 0⟩ = some (.file f) := hget
    dsimp only
    rw [hat, fileAt_of_get? hget]
    refine ⟨_, rfl, ?_⟩
    cases happend : t.append with
    | true =>
      rw [Target.kept, if_pos happend]
      exact turns_refl hget
    | false =>
      have hturns := turns_set files hl []
      rw [fileAt_of_get? hget] at hturns
      rw [Target.kept, if_neg (Bool.eq_false_iff.mp happend)]
      exact hturns

/-- The path names a device. -/
def NamesDevice (files : Files) (start : Place) (path : String) (d : Device) : Prop :=
  ∃ p, files.find true start path = .ok (.found p) ∧ files.at? p = some (.device d)

/-- **What an open does**, of whatever kind the file is: one regular file begins with what the
    redirection leaves, or a device is opened and no file differs. -/
theorem openFile_cases {start : Place} {t : Target} {h : Handle}
    (hopen : files.openFile start t.path t.append = .ok (files', h)) :
    (∃ l, files.Names start t.path l ∧ h = ⟨.file l, t.append, 0, []⟩ ∧
        files.Turns files' l (t.kept (files.fileAt l).content)) ∨
      ∃ d, files.NamesDevice start t.path d ∧ h = ⟨.device d, t.append, 0, []⟩ ∧
        files' = files := by
  -- a path that names a file has been opened as `openFile_of_names` says
  have hnamed : ∀ l, files.Names start t.path l → h = ⟨.file l, t.append, 0, []⟩ ∧
      files.Turns files' l (t.kept (files.fileAt l).content) := by
    intro l hl
    obtain ⟨files'', hopen', hturns⟩ := openFile_of_names hl
    cases hopen.symm.trans hopen'
    exact ⟨rfl, hturns⟩
  have hkind := hopen
  unfold openFile at hkind
  cases hfind : files.find true start t.path with
  | error e =>
    rw [hfind] at hkind
    cases hkind
  | ok spot =>
    rw [hfind] at hkind
    cases spot with
    | absent d n =>
      have hnames : files.Names start t.path (n :: d) := ⟨_, hfind, .new d n⟩
      exact .inl ⟨n :: d, hnames, hnamed _ hnames⟩
    | found p =>
      dsimp only at hkind
      cases hat : files.at? p with
      | none =>
        rw [hat] at hkind
        cases hkind
      | some node =>
        rw [hat] at hkind
        cases node with
        | file f =>
          obtain ⟨l, lost⟩ := p
          have hkept : lost = 0 := by
            refine Decidable.byContradiction fun hlost => ?_
            rw [at?, if_neg hlost] at hat
            cases hat
          subst hkept
          have hnames : files.Names start t.path l := ⟨_, hfind, .file hat⟩
          exact .inl ⟨l, hnames, hnamed l hnames⟩
        | device d =>
          cases hkind
          exact .inr ⟨d, ⟨p, hfind, hat⟩, rfl, rfl⟩
        | directory => cases hkind
        | link target => cases hkind

/-- **What arriving bytes do to a file.** -/
theorem receive_file {f : File} (append : Bool) (waiting : Bytes)
    (h : files.get? l = some (.file f)) (data : Bytes) :
    files.Turns (files.receive ⟨.file l, append, 0, waiting⟩ data) l
      (landed append f.content data) := by
  have hl : l ≠ [] := by
    rintro rfl
    cases h
  unfold receive
  split
  · next hempty =>
    rw [List.isEmpty_iff.mp hempty, landed_nil]
    exact turns_refl h
  · have hturns := turns_set files hl (landed append f.content data)
    have hpatch : f.content.patch (if append then f.content.length else 0) data =
        landed append f.content data := by
      cases append with
      | true => exact Bytes.patch_length f.content data
      | false => exact Bytes.patch_zero f.content data
    rw [fileAt_of_get? h] at hturns
    simp only [h, hpatch]
    exact hturns

theorem receive_elsewhere {h : Handle} {k : Location} (hk : h.object ≠ .file k) (data : Bytes) :
    (files.receive h data).get? k = files.get? k := by
  obtain ⟨object, append, offset, waiting⟩ := h
  unfold receive
  split
  · rfl
  · cases object with
    | device d => rfl
    | file l =>
      dsimp only
      cases hnode : files.get? l with
      | none => rfl
      | some node =>
        cases node with
        | file f =>
          have hl : l ≠ [] := by
            rintro rfl
            cases hnode
          obtain ⟨n, d, rfl⟩ := List.exists_cons_of_ne_nil hl
          have hother : k ≠ n :: d := fun heq => hk (congrArg Object.file heq.symm)
          exact (get?_set files n d k _).trans (if_neg hother)
        | _ => rfl

end Files

/-! ## 5. Sinks -/

/-- The sink has been opened on the file at `l`, and stands at its start. -/
def Sink.LandsAt (sink : Sink) (l : Location) (append : Bool) : Prop :=
  ∃ name waiting, sink = .file name ⟨.file l, append, 0, waiting⟩

namespace Shell

variable {s s' : Shell} {l : Location}

/-- The regular file at a location; a new one where there is none. -/
def fileAt (s : Shell) (l : Location) : File := s.machine.files.fileAt l

/-- The files and the sink after a channel has been opened, by what it is redirected to. -/
inductive Lands (s : Shell) : Option Target → Files → Sink → Prop where
  /-- A channel that is not redirected: no file has been opened. -/
  | stream (c : Channel) : s.Lands none s.machine.files (.stream c)
  /-- A regular file, there before or not: it begins with what the redirection leaves. -/
  | file {t : Target} {l : Location} {files : Files}
      (hnames : s.machine.files.Names s.machine.place t.path l)
      (hturns : s.machine.files.Turns files l (t.kept (s.fileAt l).content)) :
      s.Lands (some t) files (.file t.path ⟨.file l, t.append, 0, []⟩)
  /-- A device. -/
  | device {t : Target} {d : Device}
      (hnames : s.machine.files.NamesDevice s.machine.place t.path d) :
      s.Lands (some t) s.machine.files (.file t.path ⟨.device d, t.append, 0, []⟩)

/-- **What opening a sink does to the files.** -/
theorem lands_of_openSink {c : Channel} {target : Option Target} {sink : Sink}
    (h : s.openSink c target = .ok (s', sink)) : s.Lands target s'.machine.files sink := by
  obtain ⟨rfl, rfl, rfl⟩ | ⟨t, files, handle, rfl, rfl, hopen, rfl⟩ := openSink_cases h
  · exact .stream _
  · obtain ⟨l, hnames, rfl, hturns⟩ | ⟨d, hnames, rfl, rfl⟩ := Files.openFile_cases hopen
    · exact .file hnames hturns
    · exact .device hnames

/-- The file that a sink has been opened on is the one that the redirection names. -/
theorem Lands.here {target : Option Target} {files : Files} {sink : Sink}
    (h : s.Lands target files sink) (hl : sink.object? = some (.file l)) :
    ∃ t, target = some t ∧ s.machine.files.Names s.machine.place t.path l ∧
      sink.LandsAt l t.append ∧
      s.machine.files.Rewrites files l (t.kept (s.fileAt l).content) := by
  cases h with
  | stream c => cases hl
  | @file t k files hnames hturns =>
    cases hl
    exact ⟨t, rfl, hnames, ⟨t.path, [], rfl⟩, hturns.here⟩
  | device hnames => cases hl

/-- The other files are what they were. -/
theorem Lands.elsewhere {target : Option Target} {files : Files} {sink : Sink}
    (h : s.Lands target files sink) (hl : sink.object? ≠ some (.file l)) :
    files.get? l = s.machine.files.get? l := by
  cases h with
  | stream c => rfl
  | file hnames hturns =>
    exact hturns.elsewhere l fun heq => hl (congrArg (some ∘ Object.file) heq.symm)
  | device hnames => rfl

/-- The bytes for a sink land in its file. -/
theorem deliver_here {sink : Sink} {append : Bool} {f : File} (hsink : sink.LandsAt l append)
    (hf : s.machine.files.get? l = some (.file f)) (data : Bytes) :
    (s.deliver sink data).machine.files.get? l =
      some (.file { f with content := landed append f.content data }) := by
  obtain ⟨name, waiting, rfl⟩ := hsink
  have hturns := (Files.receive_file append waiting hf data).here
  rw [Files.Rewrites, Files.fileAt_of_get? hf] at hturns
  exact hturns

theorem deliver_elsewhere {sink : Sink} (hobject : sink.object? ≠ some (.file l)) (data : Bytes)
    (s : Shell) : (s.deliver sink data).machine.files.get? l = s.machine.files.get? l := by
  cases sink with
  | stream c => cases c <;> rfl
  | file name h => exact Files.receive_elsewhere (fun heq => hobject (congrArg some heq)) data

theorem files_release (sink : Sink) (s : Shell) :
    (s.release sink).machine.files = s.machine.files := by
  unfold release
  split <;> rfl

theorem files_settle (output : Sink) (o : Bytes) (error : Sink) (e : Bytes) (s : Shell) :
    (s.settle output o error e).machine.files = (s.deliverBoth output o error e).machine.files := by
  rw [settle, files_release, files_release]

variable {output error : Sink} {o e : Bytes}

/-- No sink on the file. -/
theorem settle_elsewhere (ho : output.object? ≠ some (.file l))
    (he : error.object? ≠ some (.file l)) :
    (s.settle output o error e).machine.files.get? l = s.machine.files.get? l := by
  rw [files_settle, deliverBoth]
  split
  · rw [deliver_elsewhere ho, deliver_elsewhere he]
  · rw [deliver_elsewhere he, deliver_elsewhere ho]

/-- One sink on the file: the turn of the other one does not matter. -/
theorem settle_output {append : Bool} {f : File} (ho : output.LandsAt l append)
    (he : error.object? ≠ some (.file l)) (hf : s.machine.files.get? l = some (.file f)) :
    (s.settle output o error e).machine.files.get? l =
      some (.file { f with content := landed append f.content o }) := by
  rw [files_settle, deliverBoth]
  split
  · refine deliver_here ho ?_ o
    rw [deliver_elsewhere he, hf]
  · rw [deliver_elsewhere he, deliver_here ho hf]

theorem settle_error {append : Bool} {f : File} (ho : output.object? ≠ some (.file l))
    (he : error.LandsAt l append) (hf : s.machine.files.get? l = some (.file f)) :
    (s.settle output o error e).machine.files.get? l =
      some (.file { f with content := landed append f.content e }) := by
  rw [files_settle, deliverBoth]
  split
  · rw [deliver_elsewhere ho, deliver_here he hf]
  · refine deliver_here he ?_ e
    rw [deliver_elsewhere ho, hf]

/-- Both sinks on the file: the output lands first, unless it alone fits into its buffer. -/
theorem settle_both {append append' : Bool} {f : File} (ho : output.LandsAt l append)
    (he : error.LandsAt l append') (hf : s.machine.files.get? l = some (.file f)) :
    (s.settle output o error e).machine.files.get? l =
      some (.file { f with
        content :=
          (if o.length ≤ bufferSize ∧ bufferSize < e.length then
            landed append (landed append' f.content e) o
          else landed append' (landed append f.content o) e) }) := by
  have hturn : (output.keeps o && !error.keeps e) =
      decide (o.length ≤ bufferSize ∧ bufferSize < e.length) := by
    obtain ⟨name, waiting, rfl⟩ := ho
    obtain ⟨name', waiting', rfl⟩ := he
    have hlong : decide (bufferSize < e.length) = !decide (e.length ≤ bufferSize) := by
      rw [← decide_not]
      exact decide_eq_decide.mpr Nat.not_le.symm
    simp [Sink.keeps, hlong]
  rw [files_settle, deliverBoth, hturn]
  by_cases hfits : o.length ≤ bufferSize ∧ bufferSize < e.length
  · rw [if_pos hfits, if_pos (decide_eq_true hfits)]
    exact deliver_here ho (deliver_here he hf e) o
  · rw [if_neg hfits, if_neg (by simpa using hfits)]
    exact deliver_here he (deliver_here ho hf o) e

end Shell

end LineShell
