import LineShell.Main
import LineShell.Proofs.Routing

/-!
# Faults that nothing handles

A line is meant to end without a fault: whatever goes wrong on the way is to be said on a stream.
Two faults do get out, and no others:

* the search path has a directory with a NUL character in its name, and the search comes to it;
* a sink is the device that is always full, and the command has bytes for it, which is noticed when
  they are written or when the sink is flushed.

`Machine.searchIn_eq_error_iff` and `Job.fault_finish_writes` are the two sources;
`Shell.execute_escapes_iff` adds that every other line is answered, by the rules of `Answered`.
-/

namespace LineShell

namespace Machine

/-! ## 1. The search -/

/-- The search comes to a directory whose name it cannot hand on: no directory before it has the
    entry. -/
def SearchBreaks (m : Machine) (name : String) (ds : List String) : Prop :=
  ∃ before d after, ds = before ++ d :: after ∧ hasNul d = true ∧
    ∀ e ∈ before, hasNul e = false ∧ m.holds e name ≠ .ok true

theorem searchBreaks_cons_of_nul {m : Machine} {name d : String} {ds : List String}
    (hd : hasNul d = true) : m.SearchBreaks name (d :: ds) :=
  ⟨[], d, ds, rfl, hd, nofun⟩

/-- A directory that can be asked decides about the search, or leaves it to those behind it. -/
theorem searchBreaks_cons {m : Machine} {name d : String} {ds : List String}
    (hd : hasNul d = false) :
    m.SearchBreaks name (d :: ds) ↔ m.holds d name ≠ .ok true ∧ m.SearchBreaks name ds := by
  constructor
  · intro hbreaks
    obtain ⟨before, e, after, heq, he, hbefore⟩ := hbreaks
    cases before with
    | nil =>
      cases heq
      rw [hd] at he
      cases he
    | cons b before =>
      cases heq
      exact ⟨(hbefore d List.mem_cons_self).2, before, e, after, rfl, he,
        fun c hc => hbefore c (List.mem_cons_of_mem _ hc)⟩
  · intro hlater
    obtain ⟨hholds, before, e, after, rfl, he, hbefore⟩ := hlater
    refine ⟨d :: before, e, after, rfl, he, fun c hc => ?_⟩
    rcases List.mem_cons.mp hc with rfl | hc
    · exact ⟨hd, hholds⟩
    · exact hbefore c hc

/-- A directory whose name can be handed on is refused by the system, if at all. -/
theorem holds_cases (m : Machine) (d name : String) (hd : hasNul d = false) :
    (∃ b, m.holds d name = .ok b) ∨
      ∃ number reason subject, m.holds d name = .error (.system number reason subject) := by
  unfold holds
  rw [hd]
  cases m.files.findDirectory m.place d with
  | ok p => exact .inl ⟨_, rfl⟩
  | error e => exact .inr ⟨_, _, _, rfl⟩

/-- **A search fails exactly when it comes to a name that cannot be handed on**; directories that
    cannot be listed are no failure. -/
theorem searchIn_eq_error_iff (m : Machine) (name : String) (ds : List String) :
    (∃ f, (m.searchIn name ds).2 = .error f) ↔ m.SearchBreaks name ds := by
  induction ds with
  | nil =>
    constructor
    · intro hfails
      obtain ⟨f, hf⟩ := hfails
      cases hf
    · intro hbreaks
      obtain ⟨before, d, after, heq, -⟩ := hbreaks
      cases before <;> cases heq
  | cons d ds ih =>
    cases hd : hasNul d with
    | true =>
      have hholds : m.holds d name = .error .nulByte := by rw [holds, hd]; rfl
      refine ⟨fun _ => searchBreaks_cons_of_nul hd, fun _ => ⟨.nulByte, ?_⟩⟩
      rw [searchIn, hholds]
      rfl
    | false =>
      rw [searchBreaks_cons hd, searchIn]
      obtain ⟨b, hb⟩ | ⟨number, reason, subject, hs⟩ := m.holds_cases d name hd
      · rw [hb]
        cases b with
        | true =>
          refine ⟨?_, fun h => absurd rfl h.1⟩
          intro hfails
          obtain ⟨f, hf⟩ := hfails
          cases hf
        | false => exact ih.trans ⟨fun h => ⟨nofun, h⟩, fun h => h.2⟩
      · rw [hs]
        exact ih.trans ⟨fun h => ⟨nofun, h⟩, fun h => h.2⟩

/-- Nothing but a failing search keeps a name from being identified. -/
theorem identify_eq_error_iff (m : Machine) (searchPath name : String) :
    (∃ f, (m.identify reservedWords searchPath name).2 = .error f) ↔
      Builtin.ofName? name = none ∧ m.SearchBreaks name (searchDirectories searchPath) := by
  cases hb : Builtin.ofName? name with
  | some b =>
    rw [identify_of_builtin hb]
    constructor
    · intro hfails
      obtain ⟨f, hf⟩ := hfails
      cases hf
    · intro hboth
      obtain ⟨h, -⟩ := hboth
      cases h
  | none =>
    rw [identify_of_not_builtin hb, ← searchIn_eq_error_iff, search]
    cases (m.searchIn name (searchDirectories searchPath)).2 with
    | error f => exact ⟨fun _ => ⟨rfl, f, rfl⟩, fun _ => ⟨f, rfl⟩⟩
    | ok path =>
      constructor
      · intro hfails
        obtain ⟨f, hf⟩ := hfails
        cases hf
      · intro hboth
        obtain ⟨-, f, hf⟩ := hboth
        cases hf

end Machine

/-! ## 2. Lines -/

/-- A line ends in a fault that nothing handles. -/
inductive Escapes (run : Runner) (s : Shell) (line : String) : Prop where
  /-- The search for the command comes to a name that cannot be handed on. -/
  | search {plan : Plan} {j : Job} (hplan : Plan.ofLine? line = some plan) (hopens : s.Opens plan j)
      (hname : Builtin.ofName? plan.command = none)
      (hbreaks : j.shell.machine.SearchBreaks plan.command (searchDirectories s.searchPath))
  /-- A sink turns away what the command has for it. -/
  | sink {plan : Plan} {identity : Identity} {j : Job} {y : Yield}
      (h : s.Dispatches line plan identity j) (hacts : Acts run plan j.shell identity y)
      (hrefuses : j.output.Refuses y.output ∨ j.error.Refuses y.error)

/-- A line is answered: nothing is to be done, or a channel could not be opened and the error stream
    of the process says so, or the command has acted and its sinks have taken what it had for them;
    why it could not do what was asked is then part of that, by the rules of `Acts`. -/
inductive Answered (run : Runner) (s : Shell) (line : String) : Shell → Prop where
  | idle (hplan : Plan.ofLine? line = none) : Answered run s line s
  | outputRefused {plan : Plan} {r : SinkRefusal} (hplan : Plan.ofLine? line = some plan)
      (ho : s.openSink .output plan.output = .error r) :
      Answered run s line ((s.note (.sinkRefused line r.message)).report r.message)
  | errorRefused {plan : Plan} {s₁ : Shell} {output : Sink} {r : SinkRefusal}
      (hplan : Plan.ofLine? line = some plan)
      (ho : s.openSink .output plan.output = .ok (s₁, output))
      (he : s₁.openSink .error plan.error = .error r) :
      Answered run s line
        (((s₁.note (.sinkRefused line r.message)).report r.message).release output)
  | acted {plan : Plan} {identity : Identity} {j : Job} {y : Yield} {es : List Event} {t : Shell}
      (h : s.Dispatches line plan identity j) (hacts : Acts run plan j.shell identity y)
      (hrouted : s.Routed plan j y es t) : Answered run s line t

namespace Shell

/-- A line whose search fails ends in a fault. -/
theorem fault_of_search {run : Runner} {s : Shell} {line : String} {plan : Plan} {j : Job}
    (hplan : Plan.ofLine? line = some plan) (hopens : s.Opens plan j)
    (hname : Builtin.ofName? plan.command = none)
    (hbreaks : j.shell.machine.SearchBreaks plan.command (searchDirectories s.searchPath)) :
    (s.execute run line).2 ≠ none := by
  rw [← hopens.keeps.searchPath] at hbreaks
  obtain ⟨f, hf⟩ := (j.shell.machine.identify_eq_error_iff _ plan.command).mpr ⟨hname, hbreaks⟩
  have hsome : (Job.finish (j.work run plan)).2.isSome = true := by
    refine Job.isSome_finish _ (.inl ?_)
    unfold Job.work identify
    dsimp only
    rw [hf]
    rfl
  rw [execute_of_opens hplan hopens]
  intro hnone
  rw [hnone] at hsome
  cases hsome

/-- A line whose command is known ends in a fault exactly when a sink turns its bytes away. -/
theorem Dispatches.fault_iff {run : Runner} (hrun : run.IsLawful) {s : Shell} {line : String}
    {plan : Plan} {identity : Identity} {j : Job} {y : Yield}
    (h : s.Dispatches line plan identity j) (hacts : Acts run plan j.shell identity y) :
    (s.execute run line).2 ≠ none ↔ j.output.Refuses y.output ∨ j.error.Refuses y.error := by
  obtain ⟨z, hz, hperform⟩ := Job.perform_acts hrun plan identity j
  cases hacts.unique hz
  rw [execute_of_dispatches h, hperform, Yield.handOver, ne_eq,
    Job.fault_finish_writes h.waiting.1 h.waiting.2, ← not_or, Decidable.not_not]

/-- **Which faults get out, and that all else is answered.** -/
theorem execute_escapes_iff {run : Runner} (hrun : run.IsLawful) (s : Shell) (line : String) :
    ((s.execute run line).2 ≠ none ↔ Escapes run s line) ∧
      (¬ Escapes run s line → Answered run s line (s.execute run line).1) := by
  have hback : Escapes run s line → (s.execute run line).2 ≠ none := by
    intro hescapes
    rcases hescapes with ⟨hplan, hopens, hname, hbreaks⟩ | ⟨h, hacts, hrefuses⟩
    · exact fault_of_search hplan hopens hname hbreaks
    · exact (h.fault_iff hrun hacts).mpr hrefuses
  suffices hforth : Escapes run s line ∨
      (s.execute run line).2 = none ∧ Answered run s line (s.execute run line).1 by
    rcases hforth with hescapes | ⟨hnone, hanswered⟩
    · exact ⟨⟨fun _ => hescapes, hback⟩, fun h => absurd hescapes h⟩
    · exact ⟨⟨fun h => absurd hnone h, hback⟩, fun _ => hanswered⟩
  have hends := s.execute_ends run line
  generalize hr : s.execute run line = r at hends ⊢
  cases hends with
  | idle hplan => exact .inr ⟨rfl, .idle hplan⟩
  | outputRefused hplan ho => exact .inr ⟨rfl, .outputRefused hplan ho⟩
  | errorRefused hplan ho he => exact .inr ⟨rfl, .errorRefused hplan ho he⟩
  | searchFailed hplan hopens hname =>
    obtain ⟨es, hidentify, -⟩ := identify_eq hname
    obtain ⟨hbuiltin, hbreaks⟩ :=
      (Machine.identify_eq_error_iff _ _ _).mp ⟨_, congrArg Prod.snd hidentify⟩
    rw [hopens.keeps.searchPath] at hbreaks
    exact .inl (.search hplan hopens hbuiltin hbreaks)
  | @dispatched plan identity j h =>
    obtain ⟨y, hacts, -⟩ := Job.perform_acts hrun plan identity j
    by_cases hrefuses : j.output.Refuses y.output ∨ j.error.Refuses y.error
    · exact .inl (.sink h hacts hrefuses)
    · obtain ⟨ho, he⟩ := not_or.mp hrefuses
      obtain ⟨es, t, hexecute, hrouted⟩ := h.routed hrun hacts ho he
      rw [← hr, hexecute]
      exact .inr ⟨rfl, .acted h hacts hrouted⟩

/-- The output of `pwd` is the full device: its line waits in the sink, and the flush is refused. -/
theorem execute_escapes_full_device :
    Runner.IsLawful Machine.launch ∧
      Escapes Machine.launch { machine := CommandLine.memoryMachine [] } "pwd > /dev/full" := by
  refine ⟨Machine.isLawful_launch, (execute_escapes_iff Machine.isLawful_launch _ _).1.mp ?_⟩
  decide +kernel

/-- Both faults get out of a line, with nothing said about them on either stream. -/
theorem execute_faults_unsaid :
    ((Shell.execute Machine.launch "pwd > /dev/full"
        { machine := CommandLine.memoryMachine [] }).2 = some Errno.noSpace.fault ∧
      (Shell.execute Machine.launch "pwd > /dev/full"
        { machine := CommandLine.memoryMachine [] }).1.error = []) ∧
    (Shell.execute Machine.launch "make"
        { machine := CommandLine.memoryMachine [], searchPath := "/bin:\x00" }).2 = some .nulByte ∧
      (Shell.execute Machine.launch "make"
        { machine := CommandLine.memoryMachine [], searchPath := "/bin:\x00" }).1.error = [] := by
  decide +kernel

end Shell

end LineShell
