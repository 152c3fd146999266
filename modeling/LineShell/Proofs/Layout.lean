import LineShell.Proofs.Expressible

/-!
# The layout of the words

The words of a line are laid out as items, each a redirection of two words or an argument of one,
and perhaps an operator behind them that has no word to take. There is one such layout for any
words, and the redirections and arguments are read off it.

* `Item` is a redirection or an argument, and `Layout` is a sequence of them with what is left over.
  An operator word is an operator and a plain word is none, so a word has no choice of its part;
* `Layout.of` finds the layout of words, and `Layout.words_eq_iff` says that it is the only one;
* `parse_append`: items are read one after another, whatever follows them;
* `parse_reads_layout` is what is found: the arguments in their order, for each channel the last
  file, and whether any of its redirections appends.
-/

namespace LineShell.Redirect

/-! ## 1. Layouts -/

/-- A word that is an operator. -/
structure OperatorWord where
  text : String
  operator : Operator
  valid : Operator.ofWord? text = some operator
  deriving DecidableEq

/-- A word that is no operator. -/
structure PlainWord where
  text : String
  valid : Operator.ofWord? text = none
  deriving DecidableEq

/-- What kind of word a word is. -/
def kind (w : String) : OperatorWord ⊕ PlainWord :=
  match h : Operator.ofWord? w with
  | some op => .inl ⟨w, op, h⟩
  | none => .inr ⟨w, h⟩

theorem kind_operator (op : OperatorWord) : kind op.text = .inl op := by
  obtain ⟨text, operator, h⟩ := op
  unfold kind
  split
  · next operator' h' =>
    cases h.symm.trans h'
    rfl
  · next h' => cases h.symm.trans h'

theorem kind_plain (w : PlainWord) : kind w.text = .inr w := by
  obtain ⟨text, h⟩ := w
  unfold kind
  split
  · next h' => cases h.symm.trans h'
  · rfl

theorem text_of_kind_operator {w : String} {op : OperatorWord} (h : kind w = .inl op) :
    op.text = w := by
  unfold kind at h
  split at h
  · cases h
    rfl
  · cases h

theorem text_of_kind_plain {w : String} {p : PlainWord} (h : kind w = .inr p) : p.text = w := by
  unfold kind at h
  split at h
  · cases h
  · cases h
    rfl

/-- A redirection, which takes any word for its file, or an argument. -/
inductive Item where
  | redirection (op : OperatorWord) (file : String)
  | argument (word : PlainWord)
  deriving DecidableEq

/-- Items, and perhaps an operator at the end that has nothing to take. -/
structure Layout where
  items : List Item := []
  dangling : Option OperatorWord := none
  deriving DecidableEq

/-- The words of an item. -/
def Item.words : Item → List String
  | .redirection op file => [op.text, file]
  | .argument w => [w.text]

/-- The argument that an item is. -/
def Item.argument? : Item → Option String
  | .redirection .. => none
  | .argument w => some w.text

/-- The file that an item redirects a channel to. -/
def Item.target? (c : Channel) : Item → Option Target
  | .redirection op file => if op.operator.channel = c then some ⟨file, op.operator.append⟩ else none
  | .argument _ => none

namespace Layout

/-- The words that are laid out. -/
def words (l : Layout) : List String :=
  l.items.flatMap Item.words ++ l.dangling.toList.map OperatorWord.text

/-- The arguments in their order, the operator that takes nothing behind them. -/
def arguments (l : Layout) : List String :=
  l.items.filterMap Item.argument? ++ l.dangling.toList.map OperatorWord.text

/-- The files that a channel is redirected to, in their order. -/
def targets (l : Layout) (c : Channel) : List Target := l.items.filterMap (Item.target? c)

/-- One more item in front. -/
def cons (i : Item) (l : Layout) : Layout := { l with items := i :: l.items }

theorem words_cons (i : Item) (l : Layout) : (l.cons i).words = i.words ++ l.words := by
  simp [words, cons]

/-- The layout of words. -/
def of : List String → Layout
  | [] => {}
  | [w] =>
    match kind w with
    | .inl op => { dangling := some op }
    | .inr p => { items := [.argument p] }
  | w :: operand :: rest =>
    match kind w with
    | .inl op => (of rest).cons (.redirection op operand)
    | .inr p => (of (operand :: rest)).cons (.argument p)

/-- No word is lost. -/
theorem words_of (ws : List String) : (of ws).words = ws := by
  fun_induction of ws with
  | case1 => rfl
  | case2 w op h => exact congrArg ([·]) (text_of_kind_operator h)
  | case3 w p h => exact congrArg ([·]) (text_of_kind_plain h)
  | case4 w operand rest op h ih => rw [words_cons, ih, Item.words, text_of_kind_operator h]; rfl
  | case5 w operand rest p h ih => rw [words_cons, ih, Item.words, text_of_kind_plain h]; rfl

/-- An item is found in front of any words. -/
theorem of_append (i : Item) (ws : List String) : of (i.words ++ ws) = (of ws).cons i := by
  cases i with
  | redirection op file =>
    show of (op.text :: file :: ws) = _
    rw [of, kind_operator]
  | argument p =>
    show of (p.text :: ws) = _
    cases ws with
    | nil => simp only [of, kind_plain, cons]
    | cons operand rest => simp only [of, kind_plain]

/-- A layout is found from its words. -/
theorem of_words (l : Layout) : of l.words = l := by
  obtain ⟨items, dangling⟩ := l
  induction items with
  | nil =>
    cases dangling with
    | none => rfl
    | some op =>
      show of [op.text] = _
      rw [of, kind_operator]
  | cons i items ih =>
    calc of (Layout.mk (i :: items) dangling).words
        = of (i.words ++ (Layout.mk items dangling).words) :=
          congrArg of (words_cons i ⟨items, dangling⟩)
      _ = (Layout.mk items dangling).cons i := by rw [of_append, ih]

/-- **There is one layout of any words.** -/
theorem words_eq_iff (l : Layout) (ws : List String) : l.words = ws ↔ l = of ws := by
  constructor
  · rintro rfl
    exact l.of_words.symm
  · rintro rfl
    exact words_of ws

end Layout

/-! ## 2. What is read -/

/-- An item in front of what has been read behind it. -/
def Item.before : Item → Parsed → Parsed
  | .redirection op file, p => p.redirect op.operator file
  | .argument w, p => p.argument w.text

theorem parse_item (i : Item) (ws : List String) : parse (i.words ++ ws) = i.before (parse ws) := by
  cases i with
  | redirection op file =>
    show parse (op.text :: file :: ws) = _
    rw [parse, op.valid]
    rfl
  | argument w =>
    show parse (w.text :: ws) = _
    cases ws with
    | nil => rfl
    | cons operand rest =>
      rw [parse, w.valid]
      rfl

/-- **Items are read one after another**, whatever follows them. -/
theorem parse_append (items : List Item) (ws : List String) :
    parse (items.flatMap Item.words ++ ws) = items.foldr Item.before (parse ws) := by
  induction items with
  | nil => rfl
  | cons i items ih => rw [List.flatMap_cons, List.append_assoc, parse_item, ih, List.foldr_cons]

theorem parse_words (l : Layout) :
    parse l.words =
      l.items.foldr Item.before { arguments := l.dangling.toList.map OperatorWord.text } := by
  have hdangling : parse (l.dangling.toList.map OperatorWord.text) =
      { arguments := l.dangling.toList.map OperatorWord.text } := by
    cases l.dangling <;> rfl
  rw [Layout.words, parse_append, hdangling]

/-- The arguments are found in their order. -/
theorem arguments_parse_words (l : Layout) : (parse l.words).arguments = l.arguments := by
  rw [parse_words, Layout.arguments]
  induction l.items with
  | nil => rfl
  | cons i items ih =>
    cases i with
    | redirection op file =>
      rw [List.foldr_cons, Item.before, arguments_redirect, ih]
      rfl
    | argument w =>
      rw [List.foldr_cons, Item.before, Parsed.argument, ih]
      rfl

/-- What the redirections of a channel come to: the last file, and appending once one appends. -/
def Capture.ofTargets (ts : List Target) : Capture where
  file := ts.getLast?.map Target.path
  append := ts.any Target.append

theorem Capture.ofTargets_cons (t : Target) (ts : List Target) :
    ofTargets (t :: ts) = (ofTargets ts).before t.append t.path := by
  have hlast : ((t :: ts).getLast?.map Target.path) =
      (ts.getLast?.map Target.path).or (some t.path) := by
    rw [List.getLast?_cons]
    cases ts.getLast? <;> rfl
  rw [ofTargets, hlast]
  rfl

/-- The redirections of a channel are found together. -/
theorem capture_parse_words (l : Layout) (c : Channel) :
    (parse l.words).capture c = .ofTargets (l.targets c) := by
  rw [parse_words, Layout.targets]
  induction l.items with
  | nil => cases c <;> rfl
  | cons i items ih =>
    cases i with
    | redirection op file =>
      rw [List.foldr_cons, Item.before, capture_redirect, ih]
      by_cases hc : op.operator.channel = c
      · have htarget : (Item.redirection op file).target? c = some ⟨file, op.operator.append⟩ :=
          if_pos hc
        rw [if_pos hc, List.filterMap_cons_some htarget, Capture.ofTargets_cons]
      · have htarget : (Item.redirection op file).target? c = none := if_neg hc
        rw [if_neg hc, List.filterMap_cons_none htarget]
    | argument w =>
      rw [List.foldr_cons, Item.before, capture_argument, ih]
      rfl

theorem Parsed.eq_of_capture {p q : Parsed} (harguments : p.arguments = q.arguments)
    (hcapture : ∀ c, p.capture c = q.capture c) : p = q := by
  obtain ⟨arguments, output, error⟩ := p
  obtain ⟨arguments', output', error'⟩ := q
  cases harguments
  cases hcapture .output
  cases hcapture .error
  rfl

/-! ## 3. The layout is all that counts -/

/-- A channel appends only with a file. -/
theorem Capture.file_of_append {ts : List Target} (h : (ofTargets ts).append = true) :
    (ofTargets ts).file.isSome = true := by
  obtain ⟨t, ht, -⟩ := List.any_eq_true.mp h
  have hlast : ts.getLast?.isSome = true := List.getLast?_isSome.mpr (List.ne_nil_of_mem ht)
  obtain ⟨u, hu⟩ := Option.isSome_iff_exists.mp hlast
  rw [ofTargets, hu]
  rfl

/-- **Redirections are taken out as the words are laid out.** Words have one layout. The arguments
    are those of the layout, in their order and with an operator that has nothing to take behind
    them; the file of a channel is the one of its last redirection, and it appends as soon as one of
    them does, wherever that stands. So how arguments and redirections are mixed does not count, nor
    which of two spellings an operator has; a channel appends only to a file; and the arguments have
    no redirections among them. -/
theorem parse_reads_layout (ws : List String) :
    (∃ l : Layout, (∀ l' : Layout, l'.words = ws ↔ l' = l) ∧
      (parse ws).arguments = l.arguments ∧
      ∀ c, ((parse ws).capture c).file = (l.targets c).getLast?.map Target.path ∧
        ((parse ws).capture c).append = (l.targets c).any Target.append) ∧
    (∀ l l' : Layout, l.arguments = l'.arguments → (∀ c, l.targets c = l'.targets c) →
      parse l.words = parse l'.words) ∧
    (∀ spelling ∈ [(">", "1>"), (">>", "1>>")], ∀ (items : List Item) (operand : String),
      parse (items.flatMap Item.words ++ spelling.1 :: operand :: ws) =
        parse (items.flatMap Item.words ++ spelling.2 :: operand :: ws)) ∧
    (∀ c, ((parse ws).capture c).append = true → ((parse ws).capture c).file.isSome = true) ∧
    parse (parse ws).arguments = { arguments := (parse ws).arguments } := by
  have hlayout := Layout.words_of ws
  have hcapture : ∀ c, (parse ws).capture c = .ofTargets ((Layout.of ws).targets c) := by
    intro c
    rw [← capture_parse_words, hlayout]
  refine ⟨⟨.of ws, fun l => l.words_eq_iff ws, ?_, fun c => ?_⟩, ?_, ?_, fun c h => ?_,
    parse_of_plain (plain_arguments_parse ws)⟩
  · rw [← arguments_parse_words, hlayout]
  · rw [hcapture]
    exact ⟨rfl, rfl⟩
  · intro l l' harguments htargets
    refine Parsed.eq_of_capture ?_ fun c => ?_
    · rw [arguments_parse_words, arguments_parse_words, harguments]
    · rw [capture_parse_words, capture_parse_words, htargets]
  · intro spelling hspelling items operand
    rw [parse_append, parse_append]
    simp only [List.mem_cons, List.not_mem_nil, or_false] at hspelling
    rcases hspelling with rfl | rfl <;> rfl
  · rw [hcapture] at h ⊢
    exact Capture.file_of_append h

/-- Two lines that differ in how they are mixed and spelled: each appends, has one operator for a
    file, and leaves another one over. -/
theorem parse_reads_layout_mixed :
    parse ["1>>", ">", "echo", "2>", "e", ">", "o", "a", "2>>"] =
        parse ["echo", ">>", ">", "a", "1>", "o", "2>", "e", "2>>"] ∧
      parse ["echo", ">>", ">", "a", "1>", "o", "2>", "e", "2>>"] =
        ⟨["echo", "a", "2>>"], ⟨some "o", true⟩, ⟨some "e", false⟩⟩ := by
  refine ⟨?_, by decide⟩
  exact (parse_reads_layout []).2.1
    (.of ["1>>", ">", "echo", "2>", "e", ">", "o", "a", "2>>"])
    (.of ["echo", ">>", ">", "a", "1>", "o", "2>", "e", "2>>"]) (by decide)
    (fun c => by cases c <;> decide)

end LineShell.Redirect
