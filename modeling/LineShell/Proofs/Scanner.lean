import LineShell.Word

/-!
# The scanner along a line

What the scanner of `LineShell.Word` keeps from one character to the next, and where a line can be
cut in two without changing its words.

* `Scan.Sound` is the invariant: no escape waits between single quotes, and no finished word is
  empty. `Scan.Sound.run` carries it over any line.
* `Scan.run_onto`: the words already finished have no part in how the rest is read.
* `splitChars_append_blank` is the restart: where the scanner is at rest, a blank ends everything
  that the line has been so far, and the rest is a line of its own.
-/

namespace LineShell.Word

open LineShell.Text

/-- A blank is neither a backslash nor a quote. -/
theorem ne_of_isBlank {c : Char} (hc : isBlank c = true) : c ≠ '\\' ∧ c ≠ '\'' ∧ c ≠ '"' := by
  refine ⟨?_, ?_, ?_⟩ <;> (rintro rfl; revert hc; decide)

namespace Scan

/-! ## 1. The invariant -/

/-- What holds between any two characters of a line. -/
structure Sound (s : Scan) : Prop where
  settled : s.mode = .single → s.pending = false
  finished : ∀ w ∈ s.done, w ≠ []

theorem sound_start : Sound {} := ⟨fun _ => rfl, fun _ h => absurd h List.not_mem_nil⟩

/-- Closing the current word adds no empty one. -/
theorem Sound.close {s : Scan} (h : s.Sound) : s.close.Sound := by
  unfold Scan.close
  split
  · exact h
  · next hc =>
    refine ⟨h.settled, fun w hw => ?_⟩
    rcases List.mem_cons.mp hw with rfl | hw
    · simpa using hc
    · exact h.finished w hw

/-- **One character keeps the invariant**, in every mode. -/
theorem Sound.step {s : Scan} (h : s.Sound) (c : Char) : (s.step c).Sound := by
  obtain ⟨mode, pending, current, done⟩ := s
  have hd : ∀ w ∈ done, w ≠ [] := h.finished
  cases mode with
  | bare =>
    unfold Scan.step stepBare
    dsimp only
    split
    · exact ⟨fun _ => rfl, hd⟩
    · next hp =>
      -- only here an escape may stay behind, and only outside single quotes
      have hp : pending = false := by simpa using hp
      split
      · exact ⟨nofun, hd⟩
      · split
        · exact ⟨fun _ => hp, hd⟩
        · split
          · exact ⟨nofun, hd⟩
          · split
            · exact h.close
            · exact ⟨nofun, hd⟩
  | single =>
    have hp : pending = false := h.settled rfl
    unfold Scan.step stepSingle
    dsimp only
    split
    · exact ⟨nofun, hd⟩
    · exact ⟨fun _ => hp, hd⟩
  | double =>
    unfold Scan.step stepDouble
    dsimp only
    split
    · split <;> exact ⟨nofun, hd⟩
    · split
      · exact ⟨nofun, hd⟩
      · split <;> exact ⟨nofun, hd⟩

/-- **A whole line keeps the invariant.** -/
theorem Sound.run {s : Scan} (h : s.Sound) (cs : List Char) : (s.run cs).Sound := by
  induction cs generalizing s with
  | nil => exact h
  | cons c cs ih => exact ih (h.step c)

/-- The words of a sound state are not empty. -/
theorem Sound.ne_nil_of_mem_words {s : Scan} (h : s.Sound) {w : List Char} (hw : w ∈ s.words) :
    w ≠ [] :=
  h.close.finished w (List.mem_reverse.mp hw)

/-! ## 2. States at rest -/

theorem atRest_iff {s : Scan} : s.atRest = true ↔ s.mode = .bare ∧ s.pending = false := by
  simp [atRest]

/-- A blank at rest closes the current word and does nothing else. -/
theorem step_blank {s : Scan} (hs : s.atRest = true) {c : Char} (hc : isBlank c = true) :
    s.step c = s.close := by
  obtain ⟨hm, hp⟩ := atRest_iff.mp hs
  obtain ⟨hbackslash, hsingle, hdouble⟩ := ne_of_isBlank hc
  simp [step, stepBare, hm, hp, hbackslash, hsingle, hdouble, hc]

/-- A closed state has no current word. -/
theorem current_close (s : Scan) : s.close.current = [] := by
  unfold close
  split
  · next h => simpa using h
  · rfl

/-- Closing the current word has no part in how the rest is read. -/
theorem pending_close (s : Scan) : s.close.pending = s.pending := by
  unfold close
  split <;> rfl

theorem atRest_close (s : Scan) : s.close.atRest = s.atRest := by
  unfold close
  split <;> rfl

/-! ## 3. Words that are finished already -/

/-- The state with more words finished before all others. -/
def onto (before : List (List Char)) (s : Scan) : Scan := { s with done := s.done ++ before }

theorem close_onto (before : List (List Char)) (s : Scan) :
    (s.onto before).close = s.close.onto before := by
  unfold close onto
  dsimp only
  split <;> rfl

theorem step_onto (before : List (List Char)) (s : Scan) (c : Char) :
    (s.onto before).step c = (s.step c).onto before := by
  obtain ⟨mode, pending, current, done⟩ := s
  cases mode with
  | bare =>
    simp only [step, stepBare, apply_ite (onto before), ← close_onto]
    rfl
  | single =>
    simp only [step, stepSingle, apply_ite (onto before)]
    rfl
  | double =>
    simp only [step, stepDouble, apply_ite (onto before)]
    rfl

/-- **Finished words have no part in how the rest is read.** -/
theorem run_onto (before : List (List Char)) (s : Scan) (cs : List Char) :
    (s.onto before).run cs = (s.run cs).onto before := by
  induction cs generalizing s with
  | nil => rfl
  | cons c cs ih => rw [run_cons, run_cons, step_onto, ih]

theorem words_onto (before : List (List Char)) (s : Scan) :
    (s.onto before).words = before.reverse ++ s.words := by
  rw [words, close_onto]
  exact List.reverse_append

end Scan

/-! ## 4. Cutting a line -/

theorem splitChars_nil : splitChars [] = [] := rfl

/-- No word of a line is empty. -/
theorem ne_nil_of_mem_splitChars {cs w : List Char} (h : w ∈ splitChars cs) : w ≠ [] :=
  (Scan.sound_start.run cs).ne_nil_of_mem_words h

/-- A state that is at rest and has no current word is a fresh one, its finished words apart. -/
theorem Scan.eq_onto_start {s : Scan} (hs : s.atRest = true) (hc : s.current = []) :
    s = Scan.onto s.done {} := by
  obtain ⟨mode, pending, current, done⟩ := s
  obtain ⟨rfl, rfl⟩ := Scan.atRest_iff.mp hs
  have hc : current = [] := hc
  subst hc
  rfl

/-- **The restart.** Where the scanner is at rest a blank cuts the line in two. -/
theorem splitChars_append_blank {a b : List Char} {c : Char}
    (ha : (Scan.run {} a).atRest = true) (hc : isBlank c = true) :
    splitChars (a ++ c :: b) = splitChars a ++ splitChars b := by
  have hrest : (Scan.run {} a).close.atRest = true := (Scan.atRest_close _).trans ha
  have hstart := Scan.eq_onto_start hrest (Scan.current_close _)
  calc splitChars (a ++ c :: b)
      = (((Scan.run {} a).step c).run b).words := by
        rw [splitChars, Scan.run_append, Scan.run_cons]
    _ = ((Scan.run {} a).close.run b).words := by rw [Scan.step_blank ha hc]
    _ = ((Scan.run {} b).onto (Scan.run {} a).close.done).words := by
        rw [← Scan.run_onto, ← hstart]
    _ = splitChars a ++ splitChars b := by rw [Scan.words_onto]; rfl

/-- Blanks in front of a line say nothing. -/
theorem splitChars_blanks_append {gap : List Char} (h : ∀ c ∈ gap, isBlank c = true)
    (b : List Char) : splitChars (gap ++ b) = splitChars b := by
  induction gap with
  | nil => rfl
  | cons c gap ih =>
    have hcut := splitChars_append_blank (a := []) (b := gap ++ b) rfl (h c List.mem_cons_self)
    rw [List.cons_append, ← List.nil_append (c :: (gap ++ b)), hcut, splitChars_nil,
      List.nil_append]
    exact ih fun d hd => h d (List.mem_cons_of_mem _ hd)

end LineShell.Word
