import LineShell.Proofs.Contents
import LineShell.Proofs.Refusal

/-!
# What a line leaves behind

However a line ends, the files that it has opened are closed, and the bytes that its command has
written are where they were sent to.

* `Shell.OpensFiles` has one rule for each set of files that a line can come to open;
* `Shell.execute_releases` says of every line that these are closed, and that its sinks have received
  their bytes, whatever it ends in: a search that fails, a program that fails, or a sink that
  refuses its bytes;
* `Shell.execute_overwrites`: of two sinks on one file the second may write over the first.
-/

namespace LineShell

namespace Shell

variable {s : Shell} {line : String} {plan : Plan} {j : Job}

/-! ## 1. Files that are opened and closed -/

/-- The objects that a line opens, in this order. -/
inductive OpensFiles (s : Shell) (line : String) : List Object → Prop where
  /-- The line has no command. -/
  | idle (hplan : Plan.ofLine? line = none) : s.OpensFiles line []
  /-- The output cannot be opened. -/
  | outputRefused {plan : Plan} {r : SinkRefusal} (hplan : Plan.ofLine? line = some plan)
      (ho : s.openSink .output plan.output = .error r) : s.OpensFiles line []
  /-- The error channel cannot be opened, after the output was. -/
  | errorRefused {plan : Plan} {s₁ : Shell} {output : Sink} {r : SinkRefusal}
      (hplan : Plan.ofLine? line = some plan)
      (ho : s.openSink .output plan.output = .ok (s₁, output))
      (he : s₁.openSink .error plan.error = .error r) :
      s.OpensFiles line output.object?.toList
  /-- Both sinks open. -/
  | opened {plan : Plan} {j : Job} (hplan : Plan.ofLine? line = some plan)
      (hopens : s.Opens plan j) :
      s.OpensFiles line (j.output.object?.toList ++ j.error.object?.toList)

theorem uses_deliver (sink : Sink) (data : Bytes) (s : Shell) :
    (s.deliver sink data).machine.uses = s.machine.uses := by
  rcases sink with c | _
  · cases c <;> rfl
  · rfl

theorem uses_settle (output : Sink) (o : Bytes) (error : Sink) (e : Bytes) (s : Shell) :
    (s.settle output o error e).machine.uses =
      s.machine.uses ++
        (error.object?.toList.map .closed ++ output.object?.toList.map .closed) := by
  have huses : (s.deliverBoth output o error e).machine.uses = s.machine.uses := by
    unfold deliverBoth
    split <;> rw [uses_deliver, uses_deliver]
  rw [settle, release_eq, release_eq, ← huses, ← List.append_assoc]
  rfl

theorem Opens.uses (h : s.Opens plan j) :
    j.shell.machine.uses =
      s.machine.uses ++ (j.output.object?.toList ++ j.error.object?.toList).map .opened := by
  obtain @⟨s₁, s₂, output, error, ho, he⟩ := h
  have hfirst : s₁.machine.uses = s.machine.uses ++ output.object?.toList.map .opened := by
    rw [openSink_eq ho]
    rfl
  have hsecond : s₂.machine.uses = s₁.machine.uses ++ error.object?.toList.map .opened := by
    rw [openSink_eq he]
    rfl
  dsimp only
  rw [hsecond, hfirst, List.map_append, List.append_assoc]

/-- What both sinks of a line open is closed again, the error channel first. -/
theorem opensAndCloses_pair (a b : Option Object) :
    opensAndCloses (a.toList ++ b.toList) =
      (a.toList ++ b.toList).map .opened ++ (b.toList.map .closed ++ a.toList.map .closed) := by
  have hreverse : (a.toList ++ b.toList).reverse = b.toList ++ a.toList := by
    cases a <;> cases b <;> rfl
  have hclosed : (b.toList ++ a.toList).map FileUse.closed =
      b.toList.map .closed ++ a.toList.map .closed := List.map_append
  rw [opensAndCloses, hreverse, hclosed]

/-- **Every file that a line opens it closes**, once and in the opposite order. -/
theorem execute_closes (run : Runner) (s : Shell) (line : String) :
    ∃ os, s.OpensFiles line os ∧
      (s.execute run line).1.machine.uses = s.machine.uses ++ opensAndCloses os := by
  have hnothing : s.machine.uses = s.machine.uses ++ opensAndCloses [] :=
    (List.append_nil _).symm
  cases hplan : Plan.ofLine? line with
  | none =>
    refine ⟨[], .idle hplan, ?_⟩
    unfold execute
    rw [hplan]
    exact hnothing
  | some plan =>
    cases ho : s.openSink .output plan.output with
    | error r =>
      refine ⟨[], .outputRefused hplan ho, ?_⟩
      rw [execute_of_outputRefused hplan ho, refuse_eq]
      exact hnothing
    | ok first =>
      obtain ⟨s₁, output⟩ := first
      cases he : s₁.openSink .error plan.error with
      | error r =>
        refine ⟨_, .errorRefused hplan ho he, ?_⟩
        rw [execute_of_errorRefused hplan ho he, release_refuse ho]
        rfl
      | ok second =>
        obtain ⟨s₂, error⟩ := second
        have hopens : s.Opens plan ⟨s₂, output, error⟩ := ⟨ho, he⟩
        obtain ⟨o, e, t, -, hsame, hexecute⟩ := execute_arrives run hplan hopens
        refine ⟨_, .opened hplan hopens, ?_⟩
        rw [hexecute, uses_settle, hsame.uses, hopens.uses, opensAndCloses_pair, List.append_assoc]

/-! ## 2. However a line ends -/

/-- **A line closes what it has opened, and delivers what its sinks take**, however it ends. Every
    file is closed once, in the opposite order. When both sinks are open, each receives the bytes
    that the command has for it, whether the other takes its own or not; the errors are missing only
    where the output has refused, at once, more bytes than its buffer holds, as they have not been
    written then. -/
theorem execute_releases (run : Runner) (s : Shell) (line : String) :
    (∃ os, s.OpensFiles line os ∧
      (s.execute run line).1.machine.uses = s.machine.uses ++ opensAndCloses os) ∧
    ∀ plan j, Plan.ofLine? line = some plan → s.Opens plan j →
      ∃ o e, Hands run s line plan o e ∧
        s.Received plan j o (if j.output.Stops o then [] else e) (s.execute run line).1 := by
  refine ⟨execute_closes run s line, fun plan j hplan hopens => ?_⟩
  obtain ⟨o, e, t, hhands, hsame, hexecute⟩ := execute_arrives run hplan hopens
  refine ⟨o, e, hhands, ?_⟩
  rw [hexecute]
  exact hopens.received hsame o _

/-- A tree with the device that is always full. -/
def stuffed : Shell :=
  linked.withFiles (linked.machine.files.set [⟨"full", by decide⟩] (.device .full))

/-- What the wordy program has for the sinks, by whatever path it is found. -/
theorem hands_wordy (path : Path) (hplan : Plan.ofLine? line = some plan)
    (hopens : s.Opens plan j)
    (hfound : j.shell.machine.identify reservedWords j.shell.searchPath plan.command =
      ([], .ok (.external path))) :
    Hands wordy s line plan (Bytes.ofText "1234") (Bytes.ofText "ab") := by
  have hended : ∀ m commandLine p,
      wordy m commandLine p = .ok ⟨Bytes.ofText "1234", Bytes.ofText "ab", 0⟩ := fun _ _ _ => rfl
  exact .acted (.intro hplan hopens (identify_of_machine [] _ hfound)) (.ended (hended _ _ _))

/-- The flush of the output fails on the full device: the errors are in their file all the same, and
    both are closed. -/
theorem execute_releases_full_device :
    (stuffed.execute wordy "x > full 2>> c").1.machine.files.get? [⟨"c", by decide⟩] =
        some (.file { content := Bytes.ofText "oldab" }) ∧
      (stuffed.execute wordy "x > full 2>> c").1.machine.uses =
        [.opened (.device .full), .opened (.file [⟨"c", by decide⟩]),
          .closed (.file [⟨"c", by decide⟩]), .closed (.device .full)] ∧
      (stuffed.execute wordy "x > full 2>> c").2 = some Errno.noSpace.fault := by
  have hplan : Plan.ofLine? "x > full 2>> c" =
      some ⟨"x", [], some ⟨"full", false⟩, some ⟨"c", true⟩⟩ := by decide +kernel
  have hfirst : stuffed.machine.files.openFile stuffed.machine.place "full" false =
      .ok (stuffed.machine.files, ⟨.device .full, false, 0, []⟩) := by decide +kernel
  have hsecond : stuffed.machine.files.openFile stuffed.machine.place "c" true =
      .ok (stuffed.machine.files, ⟨.file [⟨"c", by decide⟩], true, 0, []⟩) := by decide +kernel
  have hopens : stuffed.Opens ⟨"x", [], some ⟨"full", false⟩, some ⟨"c", true⟩⟩ _ :=
    .intro (openSink_of_openFile (by decide) hfirst _) (openSink_of_openFile (by decide) hsecond _)
  obtain ⟨-, hbytes⟩ := execute_releases wordy stuffed "x > full 2>> c"
  obtain ⟨o, e, hhands, hreceived⟩ := hbytes _ _ hplan hopens
  obtain ⟨rfl, rfl⟩ := hhands.unique
    (hands_wordy ⟨.root, [.down ⟨"x", by decide⟩]⟩ hplan hopens (by decide +kernel))
  obtain ⟨u, hu, hcontent⟩ := hreceived.error [⟨"c", by decide⟩] nofun rfl
  cases hu
  refine ⟨?_, by decide +kernel, by decide +kernel⟩
  rw [Files.Rewrites] at hcontent
  rw [hcontent]
  decide +kernel

/-- Bytes that a regular file has taken need not be there in the end: when both sinks are on one
    file, each stands at its own start. -/
theorem execute_overwrites :
    ¬ ∀ plan j o e l f, Plan.ofLine? "x > c 2> c" = some plan → stuffed.Opens plan j →
      Hands wordy stuffed "x > c 2> c" plan o e → j.output.object? = some (.file l) →
        (stuffed.execute wordy "x > c 2> c").1.machine.files.get? l = some (.file f) →
          ∀ b ∈ o, b ∈ f.content := by
  intro hall
  have hplan : Plan.ofLine? "x > c 2> c" =
      some ⟨"x", [], some ⟨"c", false⟩, some ⟨"c", false⟩⟩ := by decide +kernel
  have hfirst : stuffed.machine.files.openFile stuffed.machine.place "c" false =
      .ok (stuffed.machine.files.set [⟨"c", by decide⟩] (.file {}),
        ⟨.file [⟨"c", by decide⟩], false, 0, []⟩) := by decide +kernel
  have hsecond : (stuffed.machine.files.set [⟨"c", by decide⟩] (.file {})).openFile
      stuffed.machine.place "c" false =
        .ok (stuffed.machine.files.set [⟨"c", by decide⟩] (.file {}),
          ⟨.file [⟨"c", by decide⟩], false, 0, []⟩) := by decide +kernel
  have hopens : stuffed.Opens ⟨"x", [], some ⟨"c", false⟩, some ⟨"c", false⟩⟩ _ :=
    .intro (openSink_of_openFile (by decide) hfirst _) (openSink_of_openFile (by decide) hsecond _)
  have hhands := hands_wordy ⟨.root, [.down ⟨"x", by decide⟩]⟩ hplan hopens (by decide +kernel)
  have hkept := hall _ _ _ _ _ ⟨Bytes.ofText "ab34", false⟩ hplan hopens hhands rfl
    (by decide +kernel)
  exact absurd hkept (by decide +kernel)

end Shell

end LineShell
