import LineShell.Log.Logger

/-!
# The logger over many requests

The logger remembers the configuration it was last given, and has the handlers it was last given.
The two are set one after the other, and what comes between them may fail.

* `LogRequest` is one request for a configuration, and `Logger.after` the logger after many, none
  having come before them;
* `Logger.answer_cases`: a request repeats what the logger remembers, installs its handler, or
  fails;
* `Logger.exists_last_change`: the last request that is no repetition decides about the logger;
* `Spoiled` says of it that it has failed. The configuration that the logger remembers then is one
  whose handler is gone, and asking for it again does not bring it back: `Logger.after_active`.
-/

namespace LineShell

/-! ## 1. Requests -/

/-- A request for a configuration: the level and the profile as given, and the columns of the screen
    it is for. -/
structure LogRequest where
  level : String
  profile : String
  columns : Except Fault Nat

/-- The configuration that is asked for. -/
def LogRequest.wanted (q : LogRequest) : LogConfiguration := ⟨q.profile, Text.upper q.level⟩

/-- The handler has the level and the layout that are asked for. -/
structure Handler.IsFor (h : Handler) (q : LogRequest) : Prop where
  threshold : Level.ofName? (Text.upper q.level) = some h.threshold
  layout : layoutOf q.columns q.profile = .ok h.layout

namespace Logger

/-- The answer of a logger to a request. -/
def answer (l : Logger) (q : LogRequest) : Logger × Option Fault :=
  l.configure q.level q.profile q.columns

/-- The logger after a request. -/
def serve (l : Logger) (q : LogRequest) : Logger := (l.answer q).1

/-- The logger after many requests, none having come before them. -/
def after (qs : List LogRequest) : Logger := qs.foldl serve {}

variable {l : Logger} {q : LogRequest} {qs : List LogRequest}

/-- A handler is made for what is asked for, or there is none. -/
theorem handler_cases (q : LogRequest) :
    (∃ h, handler q.columns q.wanted = .ok h ∧ h.IsFor q) ∨
      ∃ f, handler q.columns q.wanted = .error f := by
  cases hh : handler q.columns q.wanted with
  | error f => exact .inr ⟨f, rfl⟩
  | ok h =>
    refine .inl ⟨h, rfl, ?_⟩
    unfold handler at hh
    cases hlayout : layoutOf q.columns q.wanted.profile with
    | error f =>
      rw [hlayout] at hh
      cases hh
    | ok layout =>
      rw [hlayout] at hh
      cases hlevel : Level.ofName? q.wanted.level with
      | none => simp [hlevel, bind, Except.bind] at hh
      | some threshold =>
        simp [hlevel, bind, Except.bind] at hh
        cases hh
        exact ⟨hlevel, hlayout⟩

/-- **What a request can do**: repeat what the logger remembers, which changes nothing; install its
    handler in place of all others; or fail, and then the handlers are gone all the same, while the
    logger remembers what it has remembered. -/
theorem answer_cases (l : Logger) (q : LogRequest) :
    (l.configured = some q.wanted ∧ l.answer q = (l, none)) ∨
      (l.configured ≠ some q.wanted ∧
        ∃ h : Handler, h.IsFor q ∧ l.answer q = (⟨some q.wanted, [h]⟩, none)) ∨
      (l.configured ≠ some q.wanted ∧ ∃ f, l.answer q = ({ l with handlers := [] }, some f)) := by
  unfold answer configure
  dsimp only
  by_cases hrepeat : l.configured = some q.wanted
  · exact .inl ⟨hrepeat, if_pos hrepeat⟩
  · have hother : ¬ l.configured = some ⟨q.profile, Text.upper q.level⟩ := hrepeat
    rw [if_neg hother]
    obtain ⟨h, hh, hfor⟩ | ⟨f, hf⟩ := handler_cases q
    · rw [show handler q.columns ⟨q.profile, Text.upper q.level⟩ = .ok h from hh]
      exact .inr (.inl ⟨hrepeat, h, hfor, rfl⟩)
    · rw [show handler q.columns ⟨q.profile, Text.upper q.level⟩ = .error f from hf]
      exact .inr (.inr ⟨hrepeat, f, rfl⟩)

theorem serve_repeat (h : l.configured = some q.wanted) : l.serve q = l := by
  obtain ⟨-, hanswer⟩ | ⟨hother, -⟩ | ⟨hother, -⟩ := l.answer_cases q
  · exact congrArg Prod.fst hanswer
  · exact absurd h hother
  · exact absurd h hother

theorem serve_fail (h : (l.answer q).2 ≠ none) : l.serve q = { l with handlers := [] } := by
  obtain ⟨-, hanswer⟩ | ⟨-, handler, -, hanswer⟩ | ⟨-, f, hanswer⟩ := l.answer_cases q
  · exact absurd (congrArg Prod.snd hanswer) h
  · exact absurd (congrArg Prod.snd hanswer) h
  · exact congrArg Prod.fst hanswer

/-! ## 2. Histories -/

/-- Repetitions change nothing, however many. -/
theorem foldl_repeats (h : ∀ q ∈ qs, l.configured = some q.wanted) : qs.foldl serve l = l := by
  induction qs with
  | nil => rfl
  | cons q qs ih =>
    rw [List.foldl_cons, serve_repeat (h q List.mem_cons_self)]
    exact ih fun p hp => h p (List.mem_cons_of_mem _ hp)

/-- **The last request that is no repetition decides**, if there is one. -/
theorem exists_last_change (l : Logger) (qs : List LogRequest) :
    (∀ q ∈ qs, l.configured = some q.wanted) ∨
      ∃ before q later, qs = before ++ q :: later ∧
        (before.foldl serve l).configured ≠ some q.wanted ∧
        ∀ p ∈ later, ((before.foldl serve l).serve q).configured = some p.wanted := by
  induction qs generalizing l with
  | nil => exact .inl nofun
  | cons q qs ih =>
    obtain hlater | ⟨before, p, later, rfl, hchange, hlater⟩ := ih (l.serve q)
    · by_cases hrepeat : l.configured = some q.wanted
      · rw [serve_repeat hrepeat] at hlater
        exact .inl (List.forall_mem_cons.mpr ⟨hrepeat, hlater⟩)
      · exact .inr ⟨[], q, qs, rfl, hrepeat, hlater⟩
    · exact .inr ⟨q :: before, p, later, rfl, hchange, hlater⟩

/-- The last request that is no repetition has failed. -/
def Spoiled (qs : List LogRequest) : Prop :=
  ∃ before q later, qs = before ++ q :: later ∧ ((after before).answer q).2 ≠ none ∧
    ∀ p ∈ later, (after before).configured = some p.wanted

/-- A logger that a failure has spoiled has no handler, and asking again for what it remembers does
    not help. -/
theorem Spoiled.handlers (h : Spoiled qs) : (after qs).handlers = [] := by
  obtain ⟨before, q, later, rfl, hfails, hlater⟩ := h
  have hserve := serve_fail hfails
  have hend : after (before ++ q :: later) = { after before with handlers := [] } := by
    rw [after, List.foldl_append, List.foldl_cons]
    rw [after] at hserve
    rw [hserve]
    exact foldl_repeats hlater
  rw [hend]

/-- Nothing has been asked for, or a failure has spoiled the logger, or it has the one handler of
    what it remembers. -/
theorem after_cases (qs : List LogRequest) :
    (after qs).configured = none ∧ qs = [] ∨ Spoiled qs ∨
      ∃ q ∈ qs, ∃ h : Handler, h.IsFor q ∧ after qs = ⟨some q.wanted, [h]⟩ := by
  obtain hnone | ⟨before, q, later, rfl, hchange, hlater⟩ := exists_last_change {} qs
  · cases qs with
    | nil => exact .inl ⟨rfl, rfl⟩
    | cons q qs => cases hnone q List.mem_cons_self
  · obtain ⟨hrepeat, -⟩ | ⟨-, h, hfor, hanswer⟩ | ⟨-, f, hanswer⟩ := (after before).answer_cases q
    · exact absurd hrepeat hchange
    · have hserve : (after before).serve q = ⟨some q.wanted, [h]⟩ := congrArg Prod.fst hanswer
      refine .inr (.inr ⟨q, by simp, h, hfor, ?_⟩)
      rw [after, List.foldl_append, List.foldl_cons, foldl_repeats hlater]
      exact hserve
    · have hserve : (after before).serve q = { after before with handlers := [] } :=
        congrArg Prod.fst hanswer
      refine .inr (.inl ⟨before, q, later, rfl, ?_, fun p hp => ?_⟩)
      · rw [hanswer]
        exact nofun
      · exact (congrArg configured hserve).symm.trans (hlater p hp)

/-! ## 3. Records -/

/-- The logger remembers what was asked for and has the one handler for it: each record of the level
    asked for and above is written, once and in the layout asked for, and no other record is. -/
structure ActiveFor (l : Logger) (q : LogRequest) : Prop where
  configured : l.configured = some q.wanted
  handler : ∃ h : Handler, h.IsFor q ∧ l.handlers = [h] ∧
    ∀ r : Record, l.emit r = if h.threshold.weight ≤ r.level.weight then r.text h.layout else ""

theorem emit_of_handlers {h : Handler} (hl : l.handlers = [h]) (r : Record) :
    l.emit r = if h.threshold.weight ≤ r.level.weight then r.text h.layout else "" := by
  unfold emit
  rw [hl]
  by_cases hheavy : h.threshold.weight ≤ r.level.weight
  · have haccepts : h.accepts r.level = true := decide_eq_true hheavy
    simp [haccepts, hheavy]
  · have haccepts : h.accepts r.level = false := decide_eq_false hheavy
    simp [haccepts, hheavy]

theorem activeFor_of_eq {h : Handler} (hfor : h.IsFor q) (hl : l = ⟨some q.wanted, [h]⟩) :
    l.ActiveFor q := by
  subst hl
  exact ⟨rfl, h, hfor, rfl, emit_of_handlers rfl⟩

/-- **When the logger is what it remembers to be.** After any requests, failed ones among them, a
    logger that remembers a configuration has exactly the one handler for it, unless the last request
    that was no repetition has failed; then it has none. So a request that ends without a fault
    leaves the logger active as asked for, with one exception: it repeats what a spoiled logger
    remembers, and then no record is written at all. -/
theorem after_active (qs : List LogRequest) :
    (∀ w, (after qs).configured = some w →
      (Spoiled qs → (after qs).handlers = []) ∧
        (¬ Spoiled qs → ∃ q ∈ qs, q.wanted = w ∧ (after qs).ActiveFor q)) ∧
      ∀ q, ((after qs).answer q).2 = none →
        ((after qs).serve q).configured = some q.wanted ∧
          (Spoiled qs ∧ (after qs).configured = some q.wanted →
            ∀ r, ((after qs).serve q).emit r = "") ∧
          (¬ (Spoiled qs ∧ (after qs).configured = some q.wanted) →
            ∃ p ∈ q :: qs, p.wanted = q.wanted ∧ ((after qs).serve q).ActiveFor p) := by
  have hactive : ∀ w, (after qs).configured = some w → ¬ Spoiled qs →
      ∃ q ∈ qs, q.wanted = w ∧ (after qs).ActiveFor q := by
    intro w hw hgood
    obtain ⟨hnone, -⟩ | hspoiled | ⟨q, hq, h, hfor, hafter⟩ := after_cases qs
    · cases hnone.symm.trans hw
    · exact absurd hspoiled hgood
    · have hwanted : q.wanted = w := Option.some.inj ((congrArg configured hafter).symm.trans hw)
      exact ⟨q, hq, hwanted, activeFor_of_eq hfor hafter⟩
  refine ⟨fun w hw => ⟨Spoiled.handlers, hactive w hw⟩, fun q hnormal => ?_⟩
  obtain ⟨hrepeat, -⟩ | ⟨hchange, h, hfor, hanswer⟩ | ⟨-, f, hanswer⟩ := (after qs).answer_cases q
  · rw [serve_repeat hrepeat]
    refine ⟨hrepeat, fun hspoiled r => ?_, fun hgood => ?_⟩
    · rw [emit, hspoiled.1.handlers]
      rfl
    · obtain ⟨p, hp, hwanted, hpactive⟩ := hactive _ hrepeat fun hs => hgood ⟨hs, hrepeat⟩
      exact ⟨p, List.mem_cons_of_mem _ hp, hwanted, hpactive⟩
  · have hserve : (after qs).serve q = ⟨some q.wanted, [h]⟩ := congrArg Prod.fst hanswer
    refine ⟨congrArg configured hserve, fun hspoiled => absurd hspoiled.2 hchange, fun _ => ?_⟩
    exact ⟨q, List.mem_cons_self, rfl, activeFor_of_eq hfor hserve⟩
  · rw [hanswer] at hnormal
    cases hnormal

/-- A level that is known, and then one that is not. -/
def misled : List LogRequest := [⟨"info", "default", .ok 80⟩, ⟨"loud", "default", .ok 80⟩]

/-- A failure spoils the logger, and a request for another configuration mends it. -/
theorem after_active_mended :
    (after misled).handlers = [] ∧
      ∃ p ∈ [⟨"debug", "rich", .ok 80⟩] ++ misled, p.wanted = ⟨"rich", "DEBUG"⟩ ∧
        ((after misled).serve ⟨"debug", "rich", .ok 80⟩).ActiveFor p := by
  have hremembers : (after misled).configured = some ⟨"default", "INFO"⟩ := by decide +kernel
  have hspoiled : Spoiled misled :=
    ⟨[⟨"info", "default", .ok 80⟩], ⟨"loud", "default", .ok 80⟩, [], rfl, by decide +kernel, nofun⟩
  obtain ⟨hhandlers, hserves⟩ := after_active misled
  obtain ⟨-, -, hmended⟩ := hserves ⟨"debug", "rich", .ok 80⟩ (by decide +kernel)
  have hother : (after misled).configured ≠ some (LogRequest.wanted ⟨"debug", "rich", .ok 80⟩) := by
    decide +kernel
  obtain ⟨p, hp, hwanted, hactive⟩ := hmended fun h => hother h.2
  exact ⟨(hhandlers _ hremembers).1 hspoiled, p, hp, hwanted.trans (by decide +kernel), hactive⟩

/-- The logger remembers a configuration and has no handler for it; asked for it again it answers
    that all is well, and a record of that level is lost. -/
theorem after_misled_silent :
    (after misled).configured = some ⟨"default", "INFO"⟩ ∧ (after misled).handlers = [] ∧
      (after misled).configure "info" "default" (.ok 80) = (after misled, none) ∧
      (after misled).emit ⟨⟨2024, 1, 2, 3, 4, 5, 678⟩, ⟨"mod", "fn", 7⟩, .info, "lost", ""⟩ = "" := by
  decide +kernel

end Logger

end LineShell
