import LineShell.Proofs.Scanner

/-!
# Quoted words read back

A word can be written down in many ways: it is cut into parts, and each part is put between single
quotes, between double quotes, or behind backslashes. Words written in any of these ways, with
blanks between them, are read back as they were.

* `Part.written` writes one part; inside single quotes a single quote ends the quotes and stands
  behind a backslash, inside double quotes the three characters that a backslash escapes follow one;
* `Part.run_written`: the scanner at rest takes a written part as its text, and is at rest again;
* `splitChars_lineOf`: a line of written words falls into these words;
* `Writes` is the relation between a line and the words it writes down, and `split_of_writes` the
  way back.
-/

namespace LineShell.Word

open LineShell.Text

/-! ## 1. Writing a word -/

/-- The ways to write a part of a word. -/
inductive Quoting where
  | single
  | double
  | backslash
  deriving DecidableEq, Repr

/-- A part of a word, and the way it is written. -/
structure Part where
  quoting : Quoting
  text : List Char
  deriving DecidableEq, Repr

/-- A character between single quotes. -/
def singleQuoted (c : Char) : List Char := if c = '\'' then ['\'', '\\', '\'', '\''] else [c]

/-- A character between double quotes. -/
def doubleQuoted (c : Char) : List Char :=
  if c = '\\' ∨ c = '"' ∨ c = '$' then ['\\', c] else [c]

/-- A part as it is written. -/
def Part.written (p : Part) : List Char :=
  match p.quoting with
  | .single => '\'' :: p.text.flatMap singleQuoted ++ ['\'']
  | .double => '"' :: p.text.flatMap doubleQuoted ++ ['"']
  | .backslash => p.text.flatMap fun c => ['\\', c]

/-- A word cut into parts, with the blanks that stand in front of it on a line. -/
structure Spaced where
  gap : List Char
  parts : List Part
  deriving DecidableEq, Repr

/-- The word itself. -/
def Spaced.word (w : Spaced) : List Char := w.parts.flatMap Part.text

/-- The word as it is written. -/
def Spaced.written (w : Spaced) : List Char := w.parts.flatMap Part.written

/-- A line of written words, with `tail` behind the last one. -/
def lineOf : List Spaced → List Char → List Char
  | [], tail => tail
  | w :: ws, tail => w.gap ++ (w.written ++ lineOf ws tail)

/-- Blanks alone. -/
def IsGap (cs : List Char) : Prop := ∀ c ∈ cs, isBlank c = true

instance (cs : List Char) : Decidable (IsGap cs) := List.decidableBAll _ cs

/-- The words stand apart: blanks alone between them, and at least one between any two. -/
structure Apart (ws : List Spaced) (tail : List Char) : Prop where
  gaps : ∀ w ∈ ws, IsGap w.gap
  separate : ∀ w ∈ ws.tail, w.gap ≠ []
  tail : IsGap tail

/-! ## 2. A part is read as its text -/

/-- The scanner at rest with a word begun. -/
def Scan.resting (current : List Char) (done : List (List Char)) : Scan :=
  ⟨.bare, false, current, done⟩

theorem Scan.run_singleQuoted (text current : List Char) (done : List (List Char)) :
    Scan.run ⟨.single, false, current, done⟩ (text.flatMap singleQuoted) =
      ⟨.single, false, text.reverse ++ current, done⟩ := by
  induction text generalizing current with
  | nil => rfl
  | cons c text ih =>
    have hc : Scan.run ⟨.single, false, current, done⟩ (singleQuoted c) =
        ⟨.single, false, c :: current, done⟩ := by
      unfold singleQuoted
      split
      · next h => subst h; rfl
      · next h => simp [Scan.step, Scan.stepSingle, Scan.push, h]
    rw [List.flatMap_cons, Scan.run_append, hc, ih]
    simp

theorem Scan.run_doubleQuoted (text current : List Char) (done : List (List Char)) :
    Scan.run ⟨.double, false, current, done⟩ (text.flatMap doubleQuoted) =
      ⟨.double, false, text.reverse ++ current, done⟩ := by
  induction text generalizing current with
  | nil => rfl
  | cons c text ih =>
    have hc : Scan.run ⟨.double, false, current, done⟩ (doubleQuoted c) =
        ⟨.double, false, c :: current, done⟩ := by
      unfold doubleQuoted
      split
      · next h => rcases h with rfl | rfl | rfl <;> rfl
      · next h =>
        simp only [not_or] at h
        simp [Scan.step, Scan.stepDouble, Scan.push, h]
    rw [List.flatMap_cons, Scan.run_append, hc, ih]
    simp

theorem Scan.run_backslashed (text current : List Char) (done : List (List Char)) :
    (resting current done).run (text.flatMap fun c => ['\\', c]) =
      resting (text.reverse ++ current) done := by
  induction text generalizing current with
  | nil => rfl
  | cons c text ih =>
    have hc : (resting current done).run ['\\', c] = resting (c :: current) done := rfl
    rw [List.flatMap_cons, Scan.run_append, hc, ih]
    simp

/-- **A written part is read as its text**, and the scanner is at rest again. -/
theorem Part.run_written (p : Part) (current : List Char) (done : List (List Char)) :
    (Scan.resting current done).run p.written = .resting (p.text.reverse ++ current) done := by
  obtain ⟨quoting, text⟩ := p
  cases quoting with
  | single =>
    show (Scan.run ⟨.single, false, current, done⟩ (text.flatMap singleQuoted ++ ['\''])) = _
    rw [Scan.run_append, Scan.run_singleQuoted]
    rfl
  | double =>
    show (Scan.run ⟨.double, false, current, done⟩ (text.flatMap doubleQuoted ++ ['"'])) = _
    rw [Scan.run_append, Scan.run_doubleQuoted]
    rfl
  | backslash => exact Scan.run_backslashed text current done

theorem Scan.run_parts (ps : List Part) (current : List Char) (done : List (List Char)) :
    (resting current done).run (ps.flatMap Part.written) =
      resting ((ps.flatMap Part.text).reverse ++ current) done := by
  induction ps generalizing current with
  | nil => rfl
  | cons p ps ih =>
    rw [List.flatMap_cons, Scan.run_append, Part.run_written, ih]
    simp

/-- A written word that is not empty is one word of the line. -/
theorem Spaced.splitChars_written {w : Spaced} (hw : w.word ≠ []) :
    splitChars w.written = [w.word] := by
  have hrun : Scan.run {} w.written = .resting (w.word.reverse ++ []) [] :=
    Scan.run_parts w.parts [] []
  rw [splitChars, hrun, List.append_nil]
  simp [Scan.words, Scan.close, Scan.resting, hw]

theorem Spaced.atRest_run_written (w : Spaced) : (Scan.run {} w.written).atRest = true := by
  have hrun : Scan.run {} w.written = .resting (w.word.reverse ++ []) [] :=
    Scan.run_parts w.parts [] []
  rw [hrun]
  rfl

/-! Rest is kept. -/

theorem Scan.atRest_run_gap {gap : List Char} (h : IsGap gap) {s : Scan} (hs : s.atRest = true) :
    (s.run gap).atRest = true := by
  induction gap generalizing s with
  | nil => exact hs
  | cons c gap ih =>
    rw [run_cons, step_blank hs (h c List.mem_cons_self)]
    exact ih (fun d hd => h d (List.mem_cons_of_mem _ hd)) ((atRest_close s).trans hs)

theorem Scan.atRest_run_parts (ps : List Part) {s : Scan} (hs : s.atRest = true) :
    (s.run (ps.flatMap Part.written)).atRest = true := by
  obtain ⟨mode, pending, current, done⟩ := s
  obtain ⟨rfl, rfl⟩ := atRest_iff.mp hs
  have hrun := run_parts ps current done
  unfold resting at hrun
  rw [hrun]
  rfl

/-! ## 3. A line is read as its words -/

/-- Behind a written word the line ends, or goes on with a blank. -/
theorem Spaced.splitChars_written_append {w : Spaced} (hw : w.word ≠ []) {rest : List Char}
    (hrest : ∀ c ∈ rest.head?, isBlank c = true) :
    splitChars (w.written ++ rest) = w.word :: splitChars rest := by
  cases rest with
  | nil => rw [List.append_nil, splitChars_written hw]; rfl
  | cons c b =>
    have hc : isBlank c = true := hrest c rfl
    have hb : splitChars ([c] ++ b) = splitChars b :=
      splitChars_blanks_append (by simpa using hc) b
    rw [splitChars_append_blank w.atRest_run_written hc, splitChars_written hw, ← hb]
    rfl

/-- Words that stand apart begin with a blank, once the first of them has one in front of it. -/
theorem Apart.head_blank {w : Spaced} {ws : List Spaced} {tail : List Char}
    (h : Apart (w :: ws) tail) : ∀ c ∈ (lineOf ws tail).head?, isBlank c = true := by
  cases ws with
  | nil => exact fun c hc => h.tail c (List.mem_of_mem_head? hc)
  | cons v ws =>
    intro c hc
    have hv : v.gap ≠ [] := h.separate v List.mem_cons_self
    have hg : IsGap v.gap := h.gaps v (List.mem_cons_of_mem _ List.mem_cons_self)
    obtain ⟨d, gap, hd⟩ := List.exists_cons_of_ne_nil hv
    rw [lineOf, hd, List.cons_append, List.head?_cons, Option.mem_some_iff] at hc
    subst hc
    exact hg d (hd ▸ List.mem_cons_self)

theorem Apart.of_cons {w : Spaced} {ws : List Spaced} {tail : List Char}
    (h : Apart (w :: ws) tail) : Apart ws tail where
  gaps v hv := h.gaps v (List.mem_cons_of_mem _ hv)
  separate v hv := h.separate v (List.mem_of_mem_tail hv)
  tail := h.tail

/-- **Written words are read back**, whatever blanks stand around them. -/
theorem splitChars_lineOf {ws : List Spaced} {tail : List Char} (h : Apart ws tail)
    (hne : ∀ w ∈ ws, w.word ≠ []) : splitChars (lineOf ws tail) = ws.map Spaced.word := by
  induction ws with
  | nil =>
    have htail := splitChars_blanks_append h.tail []
    rwa [List.append_nil] at htail
  | cons w ws ih =>
    rw [lineOf, splitChars_blanks_append (h.gaps w List.mem_cons_self),
      Spaced.splitChars_written_append (hne w List.mem_cons_self) h.head_blank,
      ih h.of_cons fun v hv => hne v (List.mem_cons_of_mem _ hv), List.map_cons]

/-- A scanner at rest is at rest behind written words. -/
theorem Scan.atRest_run_lineOf {ws : List Spaced} {tail : List Char} (h : Apart ws tail) {s : Scan}
    (hs : s.atRest = true) : (s.run (lineOf ws tail)).atRest = true := by
  induction ws generalizing s with
  | nil => exact atRest_run_gap h.tail hs
  | cons w ws ih =>
    rw [lineOf, run_append, run_append]
    exact ih h.of_cons (atRest_run_parts w.parts (atRest_run_gap (h.gaps w List.mem_cons_self) hs))

/-! ## 4. Lines and words as texts -/

/-- The line writes down the words, each cut into parts and written in some way. -/
def Writes (line : String) (words : List String) : Prop :=
  ∃ (ws : List Spaced) (tail : List Char), Apart ws tail ∧
    ws.map (fun w => String.ofList w.word) = words ∧ line = String.ofList (lineOf ws tail)

/-- Any words can be written down. -/
theorem exists_writes (words : List String) : ∃ line, Writes line words := by
  refine ⟨_, words.map fun w => ⟨[' '], [⟨.single, w.toList⟩]⟩, [], ⟨?_, ?_, nofun⟩, ?_, rfl⟩
  · intro w hw
    obtain ⟨v, -, rfl⟩ := List.mem_map.mp hw
    show IsGap [' ']
    decide
  · intro w hw
    obtain ⟨v, -, rfl⟩ := List.mem_map.mp (List.mem_of_mem_tail hw)
    exact List.cons_ne_nil _ _
  · simp [Spaced.word, Function.comp_def]

/-- No word of a line is empty. -/
theorem ne_empty_of_mem_split {line w : String} (h : w ∈ split line) : w ≠ "" := by
  obtain ⟨cs, hcs, rfl⟩ := List.mem_map.mp h
  have hne : cs ≠ [] := ne_nil_of_mem_splitChars hcs
  simpa using hne

theorem split_eq_of_writes {line : String} {words : List String} (hne : ∀ w ∈ words, w ≠ "")
    (h : Writes line words) : split line = words := by
  obtain ⟨ws, tail, hapart, rfl, rfl⟩ := h
  have hwords : ∀ w ∈ ws, w.word ≠ [] := by
    intro w hw hnil
    exact hne _ (List.mem_map_of_mem hw) (by rw [hnil])
  rw [split, String.toList_ofList, splitChars_lineOf hapart hwords, List.map_map]
  rfl

theorem Writes.atRest {line : String} {words : List String} (h : Writes line words) :
    (Scan.run {} line.toList).atRest = true := by
  obtain ⟨ws, tail, hapart, -, rfl⟩ := h
  rw [String.toList_ofList]
  exact Scan.atRest_run_lineOf hapart rfl

/-- **Written words are read back**: a line that writes down non-empty words falls into these words.
    The words of any line are such words, so writing them down in whatever way and reading them
    again changes nothing. -/
theorem split_of_writes (words : List String) (hne : ∀ w ∈ words, w ≠ "") :
    (∀ line, Writes line words → split line = words) ∧
      ∀ other, (∀ w ∈ split other, w ≠ "") ∧ (∃ again, Writes again (split other)) ∧
        ∀ again, Writes again (split other) → split again = split other :=
  ⟨fun _ h => split_eq_of_writes hne h, fun other =>
    ⟨fun _ hw => ne_empty_of_mem_split hw, exists_writes (split other),
      fun _ h => split_eq_of_writes (fun _ hw => ne_empty_of_mem_split hw) h⟩⟩

/-- A word with a blank, a quote and a backslash in it, cut in three and written in all three ways,
    and a word behind it. -/
theorem split_of_writes_mixed :
    (∀ w ∈ ["a b'\\\"", "$"], w ≠ "") ∧
      split "\t'a b'\"'\\\\\"\\\"  '$'\n" = ["a b'\\\"", "$"] := by
  have hne : ∀ w ∈ ["a b'\\\"", "$"], w ≠ "" := by decide
  refine ⟨hne, (split_of_writes _ hne).1 _ ?_⟩
  exact ⟨[⟨['\t'], [⟨.single, ['a', ' ', 'b']⟩, ⟨.double, ['\'', '\\']⟩, ⟨.backslash, ['"']⟩]⟩,
    ⟨[' ', ' '], [⟨.single, ['$']⟩]⟩], ['\n'],
    ⟨by decide, by decide, by decide⟩, by decide, by decide⟩

end LineShell.Word
