import LineShell.Proofs.Scanner

/-!
# The scanner with switches

The scanner of `LineShell.Word` has a mode, which is one of three things and never two of them. This
module writes it down with a switch for single quotes, a switch for double quotes and a switch for a
waiting backslash, and with words that grow at their end. Such a scanner has eight settings of its
switches, and three of them are never met with.

* `Switches` is the scanner, and `Switches.step` one character of it;
* `Switches.Sound` is its invariant: at most one kind of quotes, no waiting backslash between single
  quotes, and no finished word that is empty;
* `Switches.ofScan` is the setting that stands for a state with a mode. `Switches.step_ofScan` and
  `Switches.run_ofScan` say that the two scanners go in step, and `Switches.Sound.exists_ofScan`
  that every sound setting stands for a state;
* `splitChars_eq_words`: the words of a line are the words that the switches find;
* `switches_sound_and_restart` puts this together with the restart at a blank.
-/

namespace LineShell.Word

open Text

/-! ## 1. The scanner -/

/-- The scanner between two characters: the switches, the word begun so far, and the words already
    finished. -/
structure Switches where
  single : Bool := false
  double : Bool := false
  pending : Bool := false
  current : List Char := []
  finished : List (List Char) := []
  deriving DecidableEq, Repr

namespace Switches

/-- The character goes to the end of the current word. -/
def keep (c : Char) (s : Switches) : Switches := { s with current := s.current ++ [c] }

/-- The current word goes to the end of the finished ones; an empty one leaves no trace. -/
def finish (s : Switches) : Switches :=
  if s.current.isEmpty then s
  else { s with current := [], finished := s.finished ++ [s.current] }

/-- One character. Single quotes are asked about before double quotes, and a waiting backslash
    before the character, so each of the eight settings has an answer. -/
def step (s : Switches) (c : Char) : Switches :=
  if !s.single && !s.double then
    if s.pending then { s.keep c with pending := false }
    else if c = '\\' then { s with pending := true }
    else if c = '\'' then { s with single := true }
    else if c = '"' then { s with double := true }
    else if isBlank c then s.finish
    else s.keep c
  else if s.single then
    if c = '\'' then { s with single := false } else s.keep c
  else if s.pending then
    let s := { s with pending := false }
    if isEscapable c then s.keep c else (s.keep '\\').keep c
  else if c = '\\' then { s with pending := true }
  else if c = '"' then { s with double := false }
  else s.keep c

/-- The scanner after the whole of `cs`. -/
def run (s : Switches) (cs : List Char) : Switches := cs.foldl step s

@[simp] theorem run_cons (s : Switches) (c : Char) (cs : List Char) :
    s.run (c :: cs) = (s.step c).run cs := rfl

/-- The words found once the line is at its end. -/
def words (s : Switches) : List (List Char) := s.finish.finished

/-- All switches are off: outside quotes with no escape waiting. -/
def AllOff (s : Switches) : Prop := s.single = false ∧ s.double = false ∧ s.pending = false

/-- What holds between any two characters of a line. -/
structure Sound (s : Switches) : Prop where
  apart : ¬ (s.single = true ∧ s.double = true)
  settled : ¬ (s.single = true ∧ s.pending = true)
  finished : ∀ w ∈ s.finished, w ≠ []

/-! ## 2. In step with the modes -/

/-- The setting that stands for a state with a mode. -/
def ofScan (s : Scan) : Switches where
  single := s.mode == .single
  double := s.mode == .double
  pending := s.pending
  current := s.current.reverse
  finished := s.done.reverse

theorem keep_ofScan (c : Char) (s : Scan) : (ofScan s).keep c = ofScan (s.push c) := by
  simp [keep, ofScan, Scan.push]

theorem finish_ofScan (s : Scan) : (ofScan s).finish = ofScan s.close := by
  unfold finish Scan.close
  cases h : s.current <;> simp [ofScan, h]

/-- **One character** takes both scanners from states that stand for each other to such states. -/
theorem step_ofScan (s : Scan) (c : Char) : (ofScan s).step c = ofScan (s.step c) := by
  obtain ⟨mode, pending, current, done⟩ := s
  cases mode with
  | bare =>
    show (if pending = true then _ else _) = _
    simp only [Scan.step, Scan.stepBare, apply_ite ofScan, finish_ofScan, keep_ofScan]
    rfl
  | single =>
    show (if c = '\'' then _ else _) = _
    simp only [Scan.step, Scan.stepSingle, apply_ite ofScan, keep_ofScan]
    rfl
  | double =>
    show (if pending = true then _ else _) = _
    simp only [Scan.step, Scan.stepDouble, apply_ite ofScan, ← keep_ofScan]
    rfl

/-- **A whole text** does. -/
theorem run_ofScan (s : Scan) (cs : List Char) : (ofScan s).run cs = ofScan (s.run cs) := by
  induction cs generalizing s with
  | nil => rfl
  | cons c cs ih => rw [run_cons, Scan.run_cons, step_ofScan, ih]

/-- The fresh scanners stand for each other. -/
theorem run_start (cs : List Char) : run {} cs = ofScan (Scan.run {} cs) := run_ofScan {} cs

theorem words_ofScan (s : Scan) : (ofScan s).words = s.words := by
  rw [words, finish_ofScan]
  rfl

theorem allOff_ofScan (s : Scan) : (ofScan s).AllOff ↔ s.atRest = true := by
  rw [Scan.atRest_iff]
  obtain ⟨mode, pending, current, done⟩ := s
  cases mode <;> simp [AllOff, ofScan]

/-! ## 3. The invariant -/

theorem sound_ofScan {s : Scan} (h : s.Sound) : (ofScan s).Sound := by
  obtain ⟨mode, pending, current, done⟩ := s
  refine ⟨?_, ?_, fun w hw => h.finished w (List.mem_reverse.mp hw)⟩
  · rintro ⟨hsingle, hdouble⟩
    cases mode <;> simp [ofScan] at hsingle hdouble
  · rintro ⟨hsingle, hpending⟩
    have hmode : mode = .single := by simpa [ofScan] using hsingle
    exact Bool.false_ne_true ((h.settled hmode).symm.trans hpending)

/-- Every sound setting stands for a sound state with a mode. -/
theorem Sound.exists_ofScan {s : Switches} (h : s.Sound) : ∃ t : Scan, t.Sound ∧ ofScan t = s := by
  obtain ⟨single, double, pending, current, finished⟩ := s
  have hfinished : ∀ w ∈ finished.reverse, w ≠ [] := fun w hw =>
    h.finished w (List.mem_reverse.mp hw)
  cases single with
  | true =>
    have hdouble : double = false := Bool.eq_false_iff.mpr fun hd => h.apart ⟨rfl, hd⟩
    have hpending : pending = false := Bool.eq_false_iff.mpr fun hp => h.settled ⟨rfl, hp⟩
    subst hdouble hpending
    exact ⟨⟨.single, false, current.reverse, finished.reverse⟩, ⟨fun _ => rfl, hfinished⟩,
      by simp [ofScan]⟩
  | false =>
    cases double with
    | true =>
      exact ⟨⟨.double, pending, current.reverse, finished.reverse⟩, ⟨nofun, hfinished⟩,
        by simp [ofScan]⟩
    | false =>
      exact ⟨⟨.bare, pending, current.reverse, finished.reverse⟩, ⟨nofun, hfinished⟩,
        by simp [ofScan]⟩

/-- **One character keeps the invariant**, whatever sound setting it is read in. -/
theorem Sound.step {s : Switches} (h : s.Sound) (c : Char) : (s.step c).Sound := by
  obtain ⟨t, ht, rfl⟩ := h.exists_ofScan
  rw [step_ofScan]
  exact sound_ofScan (ht.step c)

/-- **A whole text keeps the invariant.** -/
theorem Sound.run {s : Switches} (h : s.Sound) (cs : List Char) : (s.run cs).Sound := by
  induction cs generalizing s with
  | nil => exact h
  | cons c cs ih => exact ih (h.step c)

end Switches

/-! ## 4. Lines -/

/-- The words of a line are the words that the switches find. -/
theorem splitChars_eq_words (cs : List Char) : splitChars cs = (Switches.run {} cs).words := by
  rw [Switches.run_start, Switches.words_ofScan, splitChars]

/-- **The scanner is sound and starts afresh.** After every part of a line that begins it, the
    switches are those of the mode: not on for both kinds of quotes at once, with no backslash
    waiting between single quotes, and no finished word is empty; one more character keeps this in
    whatever way it has come about. The words are the ones that a line falls into. Where all
    switches are off behind a line, a blank ends it: what stands behind the blank falls into words
    as a line of its own. -/
theorem switches_sound_and_restart :
    (∀ line before : List Char, before <+: line →
      (Switches.run {} before).Sound ∧
        Switches.run {} before = .ofScan (Scan.run {} before)) ∧
      (∀ (s : Switches) (c : Char), s.Sound → (s.step c).Sound) ∧
      (∀ line : String, split line = (Switches.run {} line.toList).words.map String.ofList) ∧
      ∀ (a b : String) (c : Char), (Switches.run {} a.toList).AllOff → isBlank c = true →
        split (a ++ c.toString ++ b) = split a ++ split b := by
  refine ⟨fun line before _ => ⟨?_, Switches.run_start before⟩, fun s c h => h.step c,
    fun line => ?_, fun a b c hoff hc => ?_⟩
  · have hstart : Switches.Sound {} := Switches.sound_ofScan Scan.sound_start
    exact hstart.run before
  · rw [split, splitChars_eq_words]
  · have hrest : (Scan.run {} a.toList).atRest = true := by
      rwa [Switches.run_start, Switches.allOff_ofScan] at hoff
    have hchars : (a ++ c.toString ++ b).toList = a.toList ++ c :: b.toList := by simp
    rw [split, hchars, splitChars_append_blank hrest hc, List.map_append]
    rfl

/-- A line that ends in an escaped blank and a closed quote, cut at a tab from a line that leaves its
    quote open. -/
theorem switches_sound_and_restart_quoted :
    (['"', 'a'] <+: "\"a' b".toList ∧ (Switches.run {} ['"', 'a']).Sound) ∧
      (Switches.run {} "x\\ '\"'".toList).AllOff ∧ isBlank '\t' = true ∧
      split "x\\ '\"'\t'y \\" = ["x \"", "y \\"] := by
  obtain ⟨hprefixes, -, -, hrestart⟩ := switches_sound_and_restart
  have hbefore : ['"', 'a'] <+: "\"a' b".toList := by decide
  have hoff : (Switches.run {} "x\\ '\"'".toList).AllOff :=
    ⟨by decide, by decide, by decide⟩
  refine ⟨⟨hbefore, (hprefixes _ _ hbefore).1⟩, hoff, by decide, ?_⟩
  have hcut := hrestart "x\\ '\"'" "'y \\" '\t' hoff (by decide)
  have hline : "x\\ '\"'" ++ '\t'.toString ++ "'y \\" = "x\\ '\"'\t'y \\" := by decide
  rw [← hline, hcut]
  decide

end LineShell.Word
