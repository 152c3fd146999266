import LineShell.Proofs.Scanner
import LineShell.Text.Pieces

/-!
# The grammar of a line

What a line is made of, said without a scanner. A line is a sequence of items, each of them a
separator or a piece of a word:

* a separator is a blank;
* a bare character is no blank, no quote and no backslash, and stands for itself; behind a backslash
  any character does;
* between single quotes all characters stand for themselves;
* between double quotes a backslash and the character behind it are one unit, which stands for that
  character if it is a dollar sign, a double quote or a backslash, and for both otherwise;
* a text whose quote is missing goes on to the end of the line, and a backslash with nothing behind
  it stands for nothing.

`Spells` is the grammar: which items a line is. `readItems` reads them by recursive descent,
`spells_iff_eq_readItems` says that it finds the one way to read a line, and `wordsOf` takes the
words from the items. `split_reads_grammar` is the agreement with the scanner of `LineShell.Word`,
which goes through the line character by character and knows nothing of items.
-/

namespace LineShell.Word

open LineShell.Text

/-! ## 1. Items -/

/-- A unit of a text between double quotes: a character, or a backslash and the character behind
    it. -/
inductive Inner where
  | plain (c : Char)
  | escaped (c : Char)
  deriving DecidableEq, Repr

/-- How a text between double quotes ends: with its quote, with the line, or with a backslash that
    ends the line. -/
inductive Closing where
  | quote
  | line
  | backslash
  deriving DecidableEq, Repr

/-- An item of a line. -/
inductive Item where
  | separator (c : Char)
  | bare (c : Char)
  | escaped (c : Char)
  | single (text : List Char) (closed : Bool)
  | double (units : List Inner) (closing : Closing)
  /-- A backslash with nothing behind it. -/
  | lone
  deriving DecidableEq, Repr

/-! How items are written. -/

/-- A unit as it is written. -/
def Inner.spelling : Inner → List Char
  | .plain c => [c]
  | .escaped c => ['\\', c]

/-- What is written at the end of a text between double quotes. -/
def Closing.spelling : Closing → List Char
  | .quote => ['"']
  | .line => []
  | .backslash => ['\\']

/-- An item as it is written. -/
def Item.spelling : Item → List Char
  | .separator c => [c]
  | .bare c => [c]
  | .escaped c => ['\\', c]
  | .single text closed => '\'' :: (text ++ if closed then ['\''] else [])
  | .double units closing => '"' :: (units.flatMap Inner.spelling ++ closing.spelling)
  | .lone => ['\\']

/-! What items stand for. -/

/-- What a unit stands for. -/
def Inner.value : Inner → List Char
  | .plain c => [c]
  | .escaped c => if c = '$' ∨ c = '"' ∨ c = '\\' then [c] else ['\\', c]

/-- What an item adds to its word. -/
def Item.value : Item → List Char
  | .separator _ => []
  | .bare c => [c]
  | .escaped c => [c]
  | .single text _ => text
  | .double units _ => units.flatMap Inner.value
  | .lone => []

/-- The item stands between words. -/
def Item.isSeparator : Item → Bool
  | .separator _ => true
  | _ => false

/-- The words of a sequence of items: what the pieces between two separators stand for, unless that
    is nothing. -/
def wordsOf (items : List Item) : List (List Char) :=
  ((piecesBy Item.isSeparator items).map (·.flatMap Item.value)).filter (!·.isEmpty)

/-! ## 2. The grammar -/

/-- A unit that may stand between double quotes. -/
def Inner.IsLawful : Inner → Prop
  | .plain c => c ≠ '"' ∧ c ≠ '\\'
  | .escaped _ => True

/-- An item that may stand in a line. -/
def Item.IsLawful : Item → Prop
  | .separator c => isBlank c = true
  | .bare c => isBlank c = false ∧ c ≠ '\'' ∧ c ≠ '"' ∧ c ≠ '\\'
  | .escaped _ => True
  | .single text _ => '\'' ∉ text
  | .double units _ => ∀ u ∈ units, u.IsLawful
  | .lone => True

/-- The item goes on to the end of the line. -/
def Item.isFinal : Item → Bool
  | .single _ closed => !closed
  | .double _ closing => closing != .quote
  | .lone => true
  | _ => false

/-- The items that a line is: lawful ones, and none behind one that goes on to the end. -/
inductive Spells : List Item → List Char → Prop where
  | nil : Spells [] []
  | last {i : Item} (hi : i.IsLawful) (hfinal : i.isFinal = true) : Spells [i] i.spelling
  | cons {i : Item} {items : List Item} {cs : List Char} (hi : i.IsLawful)
      (hfinal : i.isFinal = false) (h : Spells items cs) : Spells (i :: items) (i.spelling ++ cs)

/-! ## 3. The reader -/

/-- Reads what follows a single quote: the text, whether its quote is there, and what follows. -/
def readSingle : List Char → List Char × Bool × List Char
  | [] => ([], false, [])
  | c :: cs =>
    if c = '\'' then ([], true, cs)
    else
      let (text, closed, rest) := readSingle cs
      (c :: text, closed, rest)

/-- Reads what follows a double quote: units, what ends them, and what follows. -/
def readDouble : List Char → List Inner × Closing × List Char
  | [] => ([], .line, [])
  | ['\\'] => ([], .backslash, [])
  | '\\' :: c :: cs =>
    let (units, closing, rest) := readDouble cs
    (.escaped c :: units, closing, rest)
  | c :: cs =>
    if c = '"' then ([], .quote, cs)
    else
      let (units, closing, rest) := readDouble cs
      (.plain c :: units, closing, rest)

/-- Reads the item that begins with `c`: the item, and what follows it. -/
def readItem (c : Char) (cs : List Char) : Item × List Char :=
  if c = '\\' then
    match cs with
    | [] => (.lone, [])
    | d :: ds => (.escaped d, ds)
  else if c = '\'' then
    let (text, closed, rest) := readSingle cs
    (.single text closed, rest)
  else if c = '"' then
    let (units, closing, rest) := readDouble cs
    (.double units closing, rest)
  else if isBlank c then (.separator c, cs)
  else (.bare c, cs)

/-! What is read is lawful, and nothing is lost on the way. -/

/-- The line begins with the item and goes on with `rest`. -/
structure Item.Begins (i : Item) (line rest : List Char) : Prop where
  lawful : i.IsLawful
  spelling : i.spelling ++ rest = line
  final : i.isFinal = true → rest = []

theorem begins_readSingle (cs : List Char) {text rest : List Char} {closed : Bool}
    (h : readSingle cs = (text, closed, rest)) :
    (Item.single text closed).Begins ('\'' :: cs) rest := by
  induction cs generalizing text with
  | nil =>
    cases h
    exact ⟨List.not_mem_nil, rfl, fun _ => rfl⟩
  | cons c cs ih =>
    unfold readSingle at h
    split at h
    · next hc =>
      cases h
      subst hc
      exact ⟨List.not_mem_nil, rfl, nofun⟩
    · next hc =>
      cases h
      obtain ⟨hlawful, hspelling, hfinal⟩ := ih rfl
      refine ⟨?_, by simpa [Item.spelling] using hspelling, hfinal⟩
      intro hmem
      rcases List.mem_cons.mp hmem with rfl | hmem
      · exact hc rfl
      · exact hlawful hmem

theorem begins_readDouble (cs : List Char) {units : List Inner} {closing : Closing}
    {rest : List Char} (h : readDouble cs = (units, closing, rest)) :
    (Item.double units closing).Begins ('"' :: cs) rest := by
  fun_induction readDouble cs generalizing units with
  | case1 =>
    cases h
    exact ⟨nofun, rfl, fun _ => rfl⟩
  | case2 =>
    cases h
    exact ⟨nofun, rfl, fun _ => rfl⟩
  | case3 c cs units' closing' rest' heq ih =>
    cases h
    obtain ⟨hlawful, hspelling, hfinal⟩ := ih heq
    refine ⟨List.forall_mem_cons.mpr ⟨trivial, hlawful⟩, ?_, hfinal⟩
    simpa [Item.spelling, Inner.spelling] using hspelling
  | case4 cs hlone hescape =>
    cases h
    exact ⟨nofun, rfl, nofun⟩
  | case5 c cs hlone hescape hc units' closing' rest' heq ih =>
    cases h
    obtain ⟨hlawful, hspelling, hfinal⟩ := ih heq
    refine ⟨List.forall_mem_cons.mpr ⟨⟨hc, ?_⟩, hlawful⟩, ?_, hfinal⟩
    -- a backslash is read before, with the character behind it or as the end of the line
    · rintro rfl
      cases cs with
      | nil => exact hlone rfl rfl
      | cons d ds => exact hescape d ds rfl rfl
    · simpa [Item.spelling, Inner.spelling] using hspelling

theorem begins_readItem (c : Char) (cs : List Char) :
    (readItem c cs).1.Begins (c :: cs) (readItem c cs).2 := by
  unfold readItem
  split
  · next hc =>
    subst hc
    cases cs with
    | nil => exact ⟨trivial, rfl, fun _ => rfl⟩
    | cons d ds => exact ⟨trivial, rfl, nofun⟩
  · next hbackslash =>
    split
    · next hc =>
      subst hc
      exact begins_readSingle cs rfl
    · next hsingle =>
      split
      · next hc =>
        subst hc
        exact begins_readDouble cs rfl
      · next hdouble =>
        split
        · next hblank => exact ⟨hblank, rfl, nofun⟩
        · next hblank =>
          exact ⟨⟨by simpa using hblank, hsingle, hdouble, hbackslash⟩, rfl, nofun⟩

theorem Item.spelling_ne_nil (i : Item) : i.spelling ≠ [] := by
  cases i <;> exact List.cons_ne_nil _ _

/-- An item takes at least one character. -/
theorem length_readItem_lt (c : Char) (cs : List Char) :
    (readItem c cs).2.length < (c :: cs).length := by
  have hpos := List.length_pos_iff.mpr (readItem c cs).1.spelling_ne_nil
  have hlength := congrArg List.length (begins_readItem c cs).spelling
  rw [List.length_append] at hlength
  omega

/-- Reads a line as a sequence of items. -/
def readItems : List Char → List Item
  | [] => []
  | c :: cs => (readItem c cs).1 :: readItems (readItem c cs).2
termination_by cs => cs.length
decreasing_by exact length_readItem_lt c cs

/-! ## 4. There is one way to read a line -/

/-- **The reader reads by the grammar**, whatever the line is. -/
theorem spells_readItems (cs : List Char) : Spells (readItems cs) cs := by
  fun_induction readItems cs with
  | case1 => exact .nil
  | case2 c cs ih =>
    have hbegins := begins_readItem c cs
    cases hi : (readItem c cs).1.isFinal with
    | false =>
      rw [← hbegins.spelling]
      exact .cons hbegins.lawful hi ih
    | true =>
      have hrest := hbegins.final hi
      have hspelling := hbegins.spelling
      rw [hrest, List.append_nil] at hspelling
      rw [hrest, readItems, ← hspelling]
      exact .last hbegins.lawful hi

/-! An item is read from its spelling. -/

theorem readSingle_text {text rest : List Char} {closed : Bool}
    (h : (Item.single text closed).IsLawful)
    (hfinal : (Item.single text closed).isFinal = true → rest = []) :
    readSingle ((text ++ if closed then ['\''] else []) ++ rest) = (text, closed, rest) := by
  induction text with
  | nil =>
    cases closed with
    | false => rw [hfinal rfl]; rfl
    | true => rfl
  | cons c text ih =>
    have hc : c ≠ '\'' := fun heq => h (heq ▸ List.mem_cons_self)
    have ih := ih (fun hmem => h (List.mem_cons_of_mem _ hmem)) hfinal
    rw [List.cons_append, List.cons_append, readSingle, if_neg hc, ih]

theorem readDouble_plain {c : Char} (hquote : c ≠ '"') (hbackslash : c ≠ '\\') (cs : List Char) :
    readDouble (c :: cs) =
      (.plain c :: (readDouble cs).1, (readDouble cs).2.1, (readDouble cs).2.2) := by
  rw [readDouble, if_neg hquote]
  · exact fun h _ => hbackslash h
  · exact fun _ _ h _ => hbackslash h

theorem readDouble_units {units : List Inner} {closing : Closing} {rest : List Char}
    (h : (Item.double units closing).IsLawful)
    (hfinal : (Item.double units closing).isFinal = true → rest = []) :
    readDouble ((units.flatMap Inner.spelling ++ closing.spelling) ++ rest) =
      (units, closing, rest) := by
  induction units with
  | nil =>
    cases closing with
    | quote => simp [Closing.spelling, readDouble]
    | line => rw [hfinal rfl]; rfl
    | backslash => rw [hfinal rfl]; rfl
  | cons u units ih =>
    have ih := ih (fun v hv => h v (List.mem_cons_of_mem _ hv)) hfinal
    cases u with
    | plain c =>
      obtain ⟨hquote, hbackslash⟩ : c ≠ '"' ∧ c ≠ '\\' := h _ List.mem_cons_self
      simp only [List.flatMap_cons, Inner.spelling, List.cons_append, List.nil_append]
      rw [readDouble_plain hquote hbackslash, ih]
    | escaped c =>
      simp only [List.flatMap_cons, Inner.spelling, List.cons_append, List.nil_append, readDouble,
        ih]

/-- **An item is read from its spelling**, whatever follows it. -/
theorem readItems_of_begins {i : Item} {line rest : List Char} (h : i.Begins line rest) :
    readItems line = i :: readItems rest := by
  obtain ⟨hlawful, rfl, hfinal⟩ := h
  have hcons : ∀ c cs, readItem c cs = (i, rest) → readItems (c :: cs) = i :: readItems rest := by
    intro c cs heq
    rw [readItems, heq]
  cases i with
  | separator c =>
    have hblank : isBlank c = true := hlawful
    obtain ⟨hbackslash, hsingle, hdouble⟩ := ne_of_isBlank hblank
    refine hcons c rest ?_
    unfold readItem
    rw [if_neg hbackslash, if_neg hsingle, if_neg hdouble, if_pos hblank]
  | bare c =>
    obtain ⟨hblank, hsingle, hdouble, hbackslash⟩ := hlawful
    refine hcons c rest ?_
    unfold readItem
    rw [if_neg hbackslash, if_neg hsingle, if_neg hdouble, hblank]
    rfl
  | escaped c => exact hcons '\\' (c :: rest) rfl
  | single text closed =>
    have hread := readSingle_text hlawful hfinal
    refine hcons '\'' ((text ++ if closed then ['\''] else []) ++ rest) ?_
    unfold readItem
    rw [if_neg (by decide), if_pos rfl, hread]
  | double units closing =>
    have hread := readDouble_units hlawful hfinal
    refine hcons '"' ((units.flatMap Inner.spelling ++ closing.spelling) ++ rest) ?_
    unfold readItem
    rw [if_neg (by decide), if_neg (by decide), if_pos rfl, hread]
  | lone =>
    have hrest : rest = [] := hfinal rfl
    subst hrest
    exact hcons '\\' [] rfl

theorem Spells.eq_readItems {items : List Item} {line : List Char} (h : Spells items line) :
    items = readItems line := by
  induction h with
  | nil => rw [readItems]
  | last hi hfinal =>
    rw [readItems_of_begins ⟨hi, List.append_nil _, fun _ => rfl⟩, readItems]
  | @cons i items cs hi hfinal h ih =>
    have hopen : i.isFinal = true → cs = [] := by simp [hfinal]
    rw [readItems_of_begins ⟨hi, rfl, hopen⟩, ← ih]

/-- **There is one way to read a line**, and the reader finds it. -/
theorem spells_iff_eq_readItems (items : List Item) (line : List Char) :
    Spells items line ↔ items = readItems line := by
  constructor
  · exact Spells.eq_readItems
  · rintro rfl
    exact spells_readItems line

/-! ## 5. The scanner follows the items -/

namespace Scan

/-- The scanner after a text between single quotes, as far as it has come. -/
theorem run_singleText {text : List Char} (ht : '\'' ∉ text) (current : List Char)
    (done : List (List Char)) :
    run ⟨.single, false, current, done⟩ text = ⟨.single, false, text.reverse ++ current, done⟩ := by
  induction text generalizing current with
  | nil => rfl
  | cons c text ih =>
    have hc : c ≠ '\'' := fun heq => ht (heq ▸ List.mem_cons_self)
    have hstep : step ⟨.single, false, current, done⟩ c = ⟨.single, false, c :: current, done⟩ := by
      simp [step, stepSingle, push, hc]
    rw [run_cons, hstep, ih fun hmem => ht (List.mem_cons_of_mem _ hmem)]
    simp

/-- The scanner after one unit between double quotes. -/
theorem run_inner {u : Inner} (hu : u.IsLawful) (current : List Char) (done : List (List Char)) :
    run ⟨.double, false, current, done⟩ u.spelling =
      ⟨.double, false, u.value.reverse ++ current, done⟩ := by
  cases u with
  | plain c =>
    obtain ⟨hquote, hbackslash⟩ : c ≠ '"' ∧ c ≠ '\\' := hu
    simp [Inner.spelling, Inner.value, step, stepDouble, push, hquote, hbackslash]
  | escaped c =>
    have hescape : step ⟨.double, false, current, done⟩ '\\' = ⟨.double, true, current, done⟩ := rfl
    have hiff : isEscapable c = true ↔ c = '$' ∨ c = '"' ∨ c = '\\' := by
      simp [isEscapable, or_assoc]
    rw [Inner.spelling, run_cons, hescape, run_cons, run_nil, Inner.value]
    simp only [step, stepDouble, if_true, hiff]
    split <;> rfl

/-- The scanner after a text between double quotes, as far as it has come. -/
theorem run_units {units : List Inner} (h : ∀ u ∈ units, u.IsLawful) (current : List Char)
    (done : List (List Char)) :
    run ⟨.double, false, current, done⟩ (units.flatMap Inner.spelling) =
      ⟨.double, false, (units.flatMap Inner.value).reverse ++ current, done⟩ := by
  induction units generalizing current with
  | nil => rfl
  | cons u units ih =>
    rw [List.flatMap_cons, run_append, run_inner (h u List.mem_cons_self),
      ih fun v hv => h v (List.mem_cons_of_mem _ hv), List.flatMap_cons]
    simp

/-- The word begun so far goes on with what the item stands for. -/
def extend (i : Item) (s : Scan) : Scan := { s with current := i.value.reverse ++ s.current }

/-- **The scanner takes an item** that does not go on to the end of the line as what it stands for,
    a separator as the end of the word, and is at rest again. -/
theorem run_item {i : Item} (hi : i.IsLawful) (hfinal : i.isFinal = false) {s : Scan}
    (hs : s.atRest = true) :
    s.run i.spelling = if i.isSeparator then s.close else s.extend i := by
  obtain ⟨mode, pending, current, done⟩ := s
  obtain ⟨rfl, rfl⟩ := atRest_iff.mp hs
  cases i with
  | separator c => exact step_blank hs hi
  | bare c =>
    obtain ⟨hblank, hsingle, hdouble, hbackslash⟩ := hi
    simp [Item.spelling, Item.isSeparator, Item.value, extend, step, stepBare, push, *]
  | escaped c => rfl
  | single text closed =>
    have hclosed : closed = true := by simpa [Item.isFinal] using hfinal
    subst hclosed
    show run ⟨.single, false, current, done⟩ (text ++ ['\'']) = _
    rw [run_append, run_singleText hi]
    rfl
  | double units closing =>
    have hquote : closing = .quote := by simpa [Item.isFinal] using hfinal
    subst hquote
    show run ⟨.double, false, current, done⟩ (units.flatMap Inner.spelling ++ ['"']) = _
    rw [run_append, run_units hi]
    rfl
  | lone => cases hfinal

/-- The words found in a state: the finished ones, and the current one unless it is empty. -/
theorem words_eq (s : Scan) :
    s.words = s.done.reverse ++ if s.current.isEmpty then [] else [s.current.reverse] := by
  unfold words close
  split <;> simp

/-- An item that goes on to the end of the line leaves the word extended, in whatever mode. -/
theorem words_run_final {i : Item} (hi : i.IsLawful) (hfinal : i.isFinal = true) {s : Scan}
    (hs : s.atRest = true) : (s.run i.spelling).words = (s.extend i).words := by
  obtain ⟨mode, pending, current, done⟩ := s
  obtain ⟨rfl, rfl⟩ := atRest_iff.mp hs
  cases i with
  | separator c => cases hfinal
  | bare c => cases hfinal
  | escaped c => cases hfinal
  | single text closed =>
    have hopen : closed = false := by simpa [Item.isFinal] using hfinal
    subst hopen
    show (run ⟨.single, false, current, done⟩ (text ++ [])).words = _
    rw [List.append_nil, run_singleText hi, words_eq, words_eq]
    rfl
  | double units closing =>
    show (run ⟨.double, false, current, done⟩
      (units.flatMap Inner.spelling ++ closing.spelling)).words = _
    rw [run_append, run_units hi]
    cases closing with
    | quote => cases hfinal
    | line => rw [Closing.spelling, run_nil, words_eq, words_eq]; rfl
    | backslash => rw [Closing.spelling, run_cons, run_nil, words_eq, words_eq]; rfl
  | lone => rw [Item.spelling, run_cons, run_nil, words_eq, words_eq]; rfl

end Scan

/-! Words of items. -/

/-- Pieces without a separator make one word, if any. -/
theorem wordsOf_pieces {ps : List Item} (h : ∀ i ∈ ps, i.isSeparator = false) :
    wordsOf ps = if (ps.flatMap Item.value).isEmpty then [] else [ps.flatMap Item.value] := by
  rw [wordsOf, piecesBy_of_forall h]
  cases he : (ps.flatMap Item.value).isEmpty <;> simp [he]

/-- A separator ends a word. -/
theorem wordsOf_append_separator (before : List Item) {i : Item} (hi : i.isSeparator = true)
    (items : List Item) : wordsOf (before ++ i :: items) = wordsOf before ++ wordsOf items := by
  rw [wordsOf, wordsOf, wordsOf, piecesBy_append_cons before hi, List.map_append,
    List.filter_append]

namespace Scan

/-- The scanner at rest behind the pieces of a word. -/
def behind (ps : List Item) (done : List (List Char)) : Scan :=
  ⟨.bare, false, (ps.flatMap Item.value).reverse, done⟩

theorem extend_behind (i : Item) (ps : List Item) (done : List (List Char)) :
    (behind ps done).extend i = behind (ps ++ [i]) done := by
  simp [behind, extend]

/-- Behind the pieces of a word, the end of the word leaves what they stand for. -/
theorem close_behind {ps : List Item} (h : ∀ i ∈ ps, i.isSeparator = false)
    (done : List (List Char)) :
    (behind ps done).close = behind [] ((wordsOf ps).reverse ++ done) := by
  rw [wordsOf_pieces h]
  unfold close behind
  rw [List.isEmpty_reverse]
  cases hv : ps.flatMap Item.value with
  | nil => rfl
  | cons c cs => simp

theorem words_behind {ps : List Item} (h : ∀ i ∈ ps, i.isSeparator = false)
    (done : List (List Char)) : (behind ps done).words = done.reverse ++ wordsOf ps := by
  rw [words, close_behind h]
  simp [behind]

end Scan

theorem forall_mem_snoc {ps : List Item} {i : Item} (h : ∀ j ∈ ps, j.isSeparator = false)
    (hi : i.isSeparator = false) : ∀ j ∈ ps ++ [i], j.isSeparator = false := by
  intro j hj
  rcases List.mem_append.mp hj with hj | hj
  · exact h j hj
  · rwa [List.mem_singleton.mp hj]

/-- **The scanner finds the words of the items**: read from behind the pieces of a word, they are
    those of the items with these pieces in front. -/
theorem Scan.words_run_of_spells {items : List Item} {cs : List Char} (h : Spells items cs)
    {ps : List Item} (hps : ∀ i ∈ ps, i.isSeparator = false) (done : List (List Char)) :
    ((behind ps done).run cs).words = done.reverse ++ wordsOf (ps ++ items) := by
  induction h generalizing ps done with
  | nil => rw [run_nil, words_behind hps, List.append_nil]
  | @last i hi hfinal =>
    have hsep : i.isSeparator = false := by
      cases i with
      | separator c => cases hfinal
      | _ => rfl
    rw [words_run_final hi hfinal rfl, extend_behind, words_behind (forall_mem_snoc hps hsep)]
  | @cons i items cs hi hfinal h ih =>
    rw [run_append, run_item hi hfinal rfl]
    cases hsep : i.isSeparator with
    | true =>
      rw [if_pos rfl, close_behind hps, ih (List.forall_mem_nil _),
        wordsOf_append_separator ps hsep]
      simp
    | false =>
      rw [if_neg Bool.false_ne_true, extend_behind, ih (forall_mem_snoc hps hsep),
        List.append_assoc, List.singleton_append]

/-- **The words of a line are those of its items**, in the one way in which the line is a sequence
    of items; and the items are found by recursive descent. -/
theorem split_reads_grammar (line : String) :
    (∀ items, Spells items line.toList ↔ items = readItems line.toList) ∧
      split line = (wordsOf (readItems line.toList)).map String.ofList := by
  refine ⟨fun items => spells_iff_eq_readItems items _, ?_⟩
  have hwords := Scan.words_run_of_spells (spells_readItems line.toList) (List.forall_mem_nil _) []
  rw [split]
  exact congrArg (List.map String.ofList) hwords

end LineShell.Word
