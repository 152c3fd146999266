import LineShell.Proofs.Grammar

/-!
# Lines without the blanks around them

A line is trimmed before it is run. The blanks in front of it never matter; those behind it matter
exactly if they are not blanks between words, because a backslash or an open quote stands before
them.

* `Scan.grows_step`: what the words hold only grows, and a blank adds to it where the scanner is
  not at rest;
* `splitChars_append_blanks_iff`: so blanks behind a line that is not at rest change its words;
* `Scan.atRest_run_iff`: at rest means that no item of the line goes on to its end;
* `split_trim_iff` puts this together for a line and what is left when it is trimmed.
-/

namespace LineShell.Word

open Text

namespace Scan

/-! ## 1. Blanks that are read -/

/-- The characters of the words, the finished ones and the current one. -/
def held (s : Scan) : List Char := s.done.reverse.flatten ++ s.current.reverse

theorem flatten_words (s : Scan) : s.words.flatten = s.held := by
  rw [words_eq, held]
  cases h : s.current <;> simp

theorem held_push (c : Char) (s : Scan) : (s.push c).held = s.held ++ [c] := by
  simp [held, push]

theorem held_close (s : Scan) : s.close.held = s.held := by
  unfold close
  split
  · rfl
  · simp [held]

/-- The character adds to what the words hold, or leaves it; and a blank adds to it where the
    scanner was not at rest. -/
def Grows (s : Scan) (c : Char) (t : Scan) : Prop :=
  ∃ more, t.held = s.held ++ more ∧
    (isBlank c = true → s.atRest = false → more ≠ [])

/-- A character that says how the next ones are read adds nothing. -/
theorem Grows.of_eq {s t : Scan} {c : Char} (h : t.held = s.held)
    (hc : isBlank c = true → s.atRest = true) : s.Grows c t :=
  ⟨[], by rw [h, List.append_nil],
    fun hblank hs => absurd (hc hblank) (Bool.eq_false_iff.mp hs)⟩

/-- A character that joins the current word adds itself, behind the backslash in front of it if that
    stands for itself. -/
theorem Grows.of_append {s t : Scan} {c : Char} (before : List Char)
    (h : t.held = s.held ++ (before ++ [c])) : s.Grows c t :=
  ⟨before ++ [c], h, fun _ _ => List.concat_ne_nil c before⟩

theorem grows_stepBare {s : Scan} (hs : s.mode = .bare) (c : Char) : s.Grows c (s.stepBare c) := by
  unfold stepBare
  split
  · exact .of_append [] (held_push c s)
  · next hp =>
    have hrest : s.atRest = true := atRest_iff.mpr ⟨hs, by simpa using hp⟩
    split
    · exact .of_eq rfl fun _ => hrest
    · split
      · exact .of_eq rfl fun _ => hrest
      · split
        · exact .of_eq rfl fun _ => hrest
        · split
          · exact .of_eq (held_close s) fun _ => hrest
          · exact .of_append [] (held_push c s)

theorem grows_stepSingle (s : Scan) (c : Char) : s.Grows c (s.stepSingle c) := by
  unfold stepSingle
  split
  · next hc => exact .of_eq rfl fun hblank => absurd hc (ne_of_isBlank hblank).2.1
  · exact .of_append [] (held_push c s)

theorem grows_stepDouble (s : Scan) (c : Char) : s.Grows c (s.stepDouble c) := by
  unfold stepDouble
  split
  · dsimp only
    split
    · exact .of_append [] (held_push c s)
    · refine .of_append ['\\'] ?_
      rw [held_push, held_push, List.append_assoc]
      rfl
  · split
    · next hc => exact .of_eq rfl fun hblank => absurd hc (ne_of_isBlank hblank).1
    · split
      · next hc => exact .of_eq rfl fun hblank => absurd hc (ne_of_isBlank hblank).2.2
      · exact .of_append [] (held_push c s)

/-- **What the words hold only grows** with a character; and a blank adds to it where the scanner is
    not at rest. -/
theorem grows_step (s : Scan) (c : Char) : s.Grows c (s.step c) := by
  unfold step
  split
  · next hs => exact grows_stepBare hs c
  · exact s.grows_stepSingle c
  · exact s.grows_stepDouble c

theorem exists_held_run (s : Scan) (cs : List Char) : ∃ more, (s.run cs).held = s.held ++ more := by
  induction cs generalizing s with
  | nil => exact ⟨[], (List.append_nil _).symm⟩
  | cons c cs ih =>
    obtain ⟨first, hfirst, -⟩ := s.grows_step c
    obtain ⟨rest, hrest⟩ := ih (s.step c)
    exact ⟨first ++ rest, by rw [run_cons, hrest, hfirst, List.append_assoc]⟩

/-- Blanks that are read while the scanner is not at rest change the words. -/
theorem words_run_blanks_ne {s : Scan} (hs : s.atRest = false) {blanks : List Char}
    (h : ∀ c ∈ blanks, isBlank c = true) (hne : blanks ≠ []) : (s.run blanks).words ≠ s.words := by
  obtain ⟨c, cs, rfl⟩ := List.exists_cons_of_ne_nil hne
  obtain ⟨first, hfirst, hgrows⟩ := s.grows_step c
  obtain ⟨rest, hrest⟩ := (s.step c).exists_held_run cs
  intro heq
  have hflatten := congrArg List.flatten heq
  rw [flatten_words, flatten_words, run_cons, hrest, hfirst, List.append_assoc,
    List.append_right_eq_self] at hflatten
  exact hgrows (h c List.mem_cons_self) hs (List.append_eq_nil_iff.mp hflatten).1

/-- Blanks in front of a line leave the scanner as it is. -/
theorem run_blanks {blanks : List Char} (h : ∀ c ∈ blanks, isBlank c = true) :
    Scan.run {} blanks = {} := by
  induction blanks with
  | nil => rfl
  | cons c cs ih =>
    rw [run_cons, step_blank rfl (h c List.mem_cons_self)]
    exact ih fun d hd => h d (List.mem_cons_of_mem _ hd)

end Scan

/-- **Blanks behind a line** leave its words exactly if there are none or the scanner is at rest. -/
theorem splitChars_append_blanks_iff (cs : List Char) {blanks : List Char}
    (h : ∀ c ∈ blanks, isBlank c = true) :
    splitChars (cs ++ blanks) = splitChars cs ↔ blanks = [] ∨ (Scan.run {} cs).atRest = true := by
  cases blanks with
  | nil => simp
  | cons c rest =>
    have hne : c :: rest ≠ [] := List.cons_ne_nil c rest
    cases hrest : (Scan.run {} cs).atRest with
    | true =>
      have hblank : splitChars rest = [] := by
        have hall := splitChars_blanks_append (fun d hd => h d (List.mem_cons_of_mem _ hd)) []
        rwa [List.append_nil] at hall
      have hcut := splitChars_append_blank (b := rest) hrest (h c List.mem_cons_self)
      simp [hcut, hblank]
    | false =>
      have hchanged := Scan.words_run_blanks_ne hrest h hne
      simpa [splitChars, Scan.run_append] using hchanged

/-! ## 2. The end of a line -/

namespace Scan

/-- Behind an item that goes on to the end of the line the scanner is not at rest. -/
theorem atRest_run_final {i : Item} (hi : i.IsLawful) (hfinal : i.isFinal = true) {s : Scan}
    (hs : s.atRest = true) : (s.run i.spelling).atRest = false := by
  obtain ⟨mode, pending, current, done⟩ := s
  obtain ⟨rfl, rfl⟩ := atRest_iff.mp hs
  cases i with
  | separator c => cases hfinal
  | bare c => cases hfinal
  | escaped c => cases hfinal
  | single text closed =>
    have hopen : closed = false := by simpa [Item.isFinal] using hfinal
    subst hopen
    show (run ⟨.single, false, current, done⟩ (text ++ [])).atRest = false
    rw [List.append_nil, run_singleText hi]
    rfl
  | double units closing =>
    show (run ⟨.double, false, current, done⟩
      (units.flatMap Inner.spelling ++ closing.spelling)).atRest = false
    rw [run_append, run_units hi]
    cases closing with
    | quote => cases hfinal
    | line => rfl
    | backslash => rfl
  | lone => rfl

/-- Behind any other item it is. -/
theorem atRest_run_item {i : Item} (hi : i.IsLawful) (hfinal : i.isFinal = false) {s : Scan}
    (hs : s.atRest = true) : (s.run i.spelling).atRest = true := by
  rw [run_item hi hfinal hs]
  split
  · exact (atRest_close _).trans hs
  · exact hs

/-- **The scanner is at rest** behind a line exactly if no item of the line goes on to its end. -/
theorem atRest_run_iff {items : List Item} {cs : List Char} (h : Spells items cs) {s : Scan}
    (hs : s.atRest = true) :
    (s.run cs).atRest = true ↔ ∀ i ∈ items, i.isFinal = false := by
  induction h generalizing s with
  | nil => simpa using hs
  | last hi hfinal => simp [atRest_run_final hi hfinal hs, hfinal]
  | cons hi hfinal h ih =>
    rw [run_append, ih (atRest_run_item hi hfinal hs)]
    simp [hfinal]

end Scan

/-! ## 3. Trimmed lines -/

/-- What is trimmed in front of a line leaves no trace in the scanner. -/
theorem run_trimStart (cs : List Char) : Scan.run {} (trimStart cs) = Scan.run {} cs := by
  have hblanks : ∀ c ∈ cs.takeWhile isBlank, isBlank c = true := fun c hc =>
    List.all_eq_true.mp List.all_takeWhile c hc
  calc Scan.run {} (trimStart cs)
      = (Scan.run {} (cs.takeWhile isBlank)).run (trimStart cs) := by rw [Scan.run_blanks hblanks]
    _ = Scan.run {} cs := by rw [← Scan.run_append, trimStart, List.takeWhile_append_dropWhile]

theorem splitChars_trimStart (cs : List Char) : splitChars (trimStart cs) = splitChars cs := by
  rw [splitChars, run_trimStart, splitChars]

theorem split_eq_iff (a b : String) :
    split a = split b ↔ splitChars a.toList = splitChars b.toList := by
  unfold split
  exact List.map_inj_right fun _ _ h => String.ofList_injective h

/-- **When trimming is harmless.** A line has the words of the trimmed line exactly if there is
    nothing to trim at its end or the scanner is at rest where the trimmed line ends; what is
    trimmed in front never matters. So the words change exactly if blanks are trimmed from behind a
    backslash or from an open quote, that is from behind an item that goes on to the end of the
    trimmed line. -/
theorem split_trim_iff (line : String) :
    (split (trim line) = split line ↔
      trimEnd line.toList = line.toList ∨ (Scan.run {} (trim line).toList).atRest = true) ∧
    split (String.ofList (trimStart line.toList)) = split line ∧
    (split (trim line) ≠ split line ↔
      trimEnd line.toList ≠ line.toList ∧
        ∃ i ∈ readItems (trim line).toList, i.isFinal = true) := by
  obtain ⟨blanks, hend, hblanks⟩ := exists_append_dropEnd isBlank line.toList
  have hline : line.toList = trimEnd line.toList ++ blanks := hend
  have htrim : (trim line).toList = trimStart (trimEnd line.toList) := by
    rw [trim, String.toList_ofList, trimStart_trimEnd]
  have hnothing : trimEnd line.toList = line.toList ↔ blanks = [] := by
    constructor
    · intro h
      rw [h] at hline
      exact List.self_eq_append_right.mp hline
    · intro h
      rw [h, List.append_nil] at hline
      exact hline.symm
  have hsame : split (trim line) = split line ↔
      trimEnd line.toList = line.toList ∨ (Scan.run {} (trim line).toList).atRest = true := by
    calc split (trim line) = split line
        ↔ splitChars (trimEnd line.toList) = splitChars line.toList := by
          rw [split_eq_iff, htrim, splitChars_trimStart]
      _ ↔ splitChars (trimEnd line.toList ++ blanks) = splitChars (trimEnd line.toList) := by
          rw [← hline, eq_comm]
      _ ↔ trimEnd line.toList = line.toList ∨ (Scan.run {} (trim line).toList).atRest = true := by
          rw [splitChars_append_blanks_iff _ hblanks, hnothing, htrim, run_trimStart]
  refine ⟨hsame, ?_, ?_⟩
  · rw [split_eq_iff, String.toList_ofList, splitChars_trimStart]
  · rw [ne_eq, hsame, Scan.atRest_run_iff (spells_readItems _) rfl]
    simp

example : split (trim "a\\  ") = ["a"] ∧ split "a\\  " = ["a "] := by decide +kernel

end LineShell.Word
