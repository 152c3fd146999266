import LineShell.Proofs.Trimming

/-!
# What becomes of the characters of a line

The words of a line, written one after the other, are the line without some of its blanks, quotes
and backslashes: nothing else is left out, nothing is added and nothing changes places. This holds
of lines with open quotes and with a backslash at their end as well.

* `Sheds` is a text and what remains of it when special characters are left out;
* `Scan.owed` is what remains of a line at some point in it: what the words hold, and the backslash
  that still waits for its character. `Scan.owed_step` says that a character is added to it or
  special ones are shed, `Scan.owed_run` follows the whole line;
* `split_conserves` is what a line and its words have in common.
-/

namespace LineShell.Word

open Text

/-! ## 1. Special characters -/

/-- A character that stands for itself wherever it is: no blank, no quote and no backslash. -/
def isOrdinary (c : Char) : Bool := !isBlank c && c != '\'' && c != '"' && c != '\\'

/-- The second text is the first one with some special characters left out. -/
inductive Sheds : List Char → List Char → Prop where
  | nil : Sheds [] []
  | keep (c : Char) {cs ds : List Char} (h : Sheds cs ds) : Sheds (c :: cs) (c :: ds)
  | shed {c : Char} (hc : isOrdinary c = false) {cs ds : List Char} (h : Sheds cs ds) :
      Sheds (c :: cs) ds

namespace Sheds

variable {as bs cs ds : List Char}

theorem refl : ∀ cs : List Char, Sheds cs cs
  | [] => .nil
  | c :: cs => .keep c (refl cs)

theorem append (h : Sheds as bs) (k : Sheds cs ds) : Sheds (as ++ cs) (bs ++ ds) := by
  induction h with
  | nil => exact k
  | keep c _ ih => exact .keep c ih
  | shed hc _ ih => exact .shed hc ih

theorem trans (h : Sheds as bs) (k : Sheds bs cs) : Sheds as cs := by
  induction h generalizing cs with
  | nil => exact k
  | keep c _ ih =>
    cases k with
    | keep _ k => exact .keep c (ih k)
    | shed hc k => exact .shed hc (ih k)
  | shed hc _ ih => exact .shed hc (ih k)

/-- What remains stands in the text, in the same order. -/
theorem sublist (h : Sheds as bs) : bs.Sublist as := by
  induction h with
  | nil => exact .slnil
  | keep c _ ih => exact ih.cons_cons c
  | shed _ _ ih => exact ih.cons _

/-- No ordinary character is left out. -/
theorem filter_isOrdinary (h : Sheds as bs) : bs.filter isOrdinary = as.filter isOrdinary := by
  induction h with
  | nil => rfl
  | keep c _ ih => rw [List.filter_cons, List.filter_cons, ih]
  | shed hc _ ih => rw [List.filter_cons, hc, ih]; rfl

end Sheds

/-! ## 2. Along a line -/

namespace Scan

/-- What remains of the line so far: what the words hold, and a backslash that waits. -/
def owed (s : Scan) : List Char := s.held ++ if s.pending then ['\\'] else []

theorem owed_of_pending {s : Scan} (h : s.pending = true) : s.owed = s.held ++ ['\\'] := by
  rw [owed, if_pos h]

theorem owed_of_settled {s : Scan} (h : s.pending = false) : s.owed = s.held := by
  rw [owed, h]
  exact List.append_nil _

theorem owed_push {s : Scan} (h : s.pending = false) (c : Char) :
    (s.push c).owed = s.held ++ [c] :=
  (owed_of_settled (s := s.push c) h).trans (held_push c s)

theorem owed_close {s : Scan} (h : s.pending = false) : s.close.owed = s.held := by
  have hclose : s.close.pending = false := (pending_close s).trans h
  rw [owed_of_settled hclose, held_close]

/-- Where no backslash waits, a character is added or, if it is special, left out. -/
theorem sheds_of_settled {s t : Scan} {c : Char} (hs : s.pending = false)
    (h : t.owed = s.held ++ [c] ∨ t.owed = s.held ∧ isOrdinary c = false) :
    Sheds (s.owed ++ [c]) t.owed := by
  rw [owed_of_settled hs]
  rcases h with h | ⟨h, hc⟩
  · rw [h]
    exact .refl _
  · rw [h]
    have hdrop := (Sheds.refl s.held).append (.shed hc .nil)
    rwa [List.append_nil] at hdrop

/-- Where a backslash waits, the character behind it is added, and the backslash is left out if it
    does not stand for itself. -/
theorem sheds_of_pending {s t : Scan} {c : Char} (hs : s.pending = true)
    (h : t.owed = s.held ++ ['\\'] ++ [c] ∨ t.owed = s.held ++ [c]) :
    Sheds (s.owed ++ [c]) t.owed := by
  rw [owed_of_pending hs]
  rcases h with h | h
  · rw [h]
    exact .refl _
  · rw [h, List.append_assoc]
    exact (Sheds.refl s.held).append (.shed (by decide) (.refl [c]))

theorem owed_stepBare (s : Scan) (c : Char) : Sheds (s.owed ++ [c]) (s.stepBare c).owed := by
  unfold stepBare
  split
  · next hp =>
    refine sheds_of_pending hp (.inr ?_)
    rw [owed_of_settled rfl]
    exact held_push c s
  · next hp =>
    have hp : s.pending = false := by simpa using hp
    refine sheds_of_settled hp ?_
    split
    · next hc =>
      rw [owed_of_pending rfl, hc]
      exact .inl rfl
    · split
      · next hc => exact .inr ⟨owed_of_settled hp, hc ▸ by decide⟩
      · split
        · next hc => exact .inr ⟨owed_of_settled hp, hc ▸ by decide⟩
        · split
          · next hc => exact .inr ⟨owed_close hp, by simp [isOrdinary, hc]⟩
          · exact .inl (owed_push hp c)

theorem owed_stepSingle {s : Scan} (hp : s.pending = false) (c : Char) :
    Sheds (s.owed ++ [c]) (s.stepSingle c).owed := by
  refine sheds_of_settled hp ?_
  unfold stepSingle
  split
  · next hc => exact .inr ⟨owed_of_settled hp, hc ▸ by decide⟩
  · exact .inl (owed_push hp c)

theorem owed_stepDouble (s : Scan) (c : Char) : Sheds (s.owed ++ [c]) (s.stepDouble c).owed := by
  unfold stepDouble
  split
  · next hp =>
    refine sheds_of_pending hp ?_
    dsimp only
    split
    · exact .inr ((owed_of_settled rfl).trans (held_push c s))
    · refine .inl ((owed_of_settled rfl).trans ?_)
      rw [held_push, held_push]
      rfl
  · next hp =>
    have hp : s.pending = false := by simpa using hp
    refine sheds_of_settled hp ?_
    split
    · next hc =>
      rw [owed_of_pending rfl, hc]
      exact .inl rfl
    · split
      · next hc => exact .inr ⟨owed_of_settled hp, hc ▸ by decide⟩
      · exact .inl (owed_push hp c)

/-- **One character** is added to what remains of the line, or it is special and left out, or it
    brings a backslash to be left out. -/
theorem owed_step {s : Scan} (h : s.Sound) (c : Char) : Sheds (s.owed ++ [c]) (s.step c).owed := by
  unfold step
  split
  · exact s.owed_stepBare c
  · next hmode => exact owed_stepSingle (h.settled hmode) c
  · exact s.owed_stepDouble c

/-- **A whole line** sheds special characters and nothing else. -/
theorem owed_run {s : Scan} (h : s.Sound) (cs : List Char) :
    Sheds (s.owed ++ cs) (s.run cs).owed := by
  induction cs generalizing s with
  | nil =>
    rw [List.append_nil]
    exact .refl _
  | cons c cs ih =>
    have hfirst := (owed_step h c).append (.refl cs)
    rw [List.append_assoc] at hfirst
    exact hfirst.trans (ih (h.step c))

/-- A backslash that still waits at the end of a line is left out as well. -/
theorem sheds_held (s : Scan) : Sheds s.owed s.held := by
  cases hp : s.pending with
  | true =>
    have hdrop := (Sheds.refl s.held).append (.shed (c := '\\') (by decide) .nil)
    rwa [List.append_nil, ← owed_of_pending hp] at hdrop
  | false =>
    rw [owed_of_settled hp]
    exact .refl _

end Scan

/-! ## 3. Lines -/

theorem sheds_splitChars (cs : List Char) : Sheds cs (splitChars cs).flatten := by
  rw [splitChars, Scan.flatten_words]
  exact (Scan.owed_run Scan.sound_start cs).trans (Scan.sheds_held _)

theorem flatMap_split (line : String) :
    (split line).flatMap String.toList = (splitChars line.toList).flatten := by
  rw [split, List.flatMap_map]
  simp [List.flatMap_def]

/-- **A line loses nothing to its words but blanks, quotes and backslashes**, and nothing is invented
    or reordered: the words one after the other stand in the line, in this order, and both have the
    same ordinary characters, each of them as often as the other. -/
theorem split_conserves (line : String) :
    ((split line).flatMap String.toList).Sublist line.toList ∧
      ((split line).flatMap String.toList).filter isOrdinary = line.toList.filter isOrdinary := by
  rw [flatMap_split]
  exact ⟨(sheds_splitChars _).sublist, (sheds_splitChars _).filter_isOrdinary⟩

end LineShell.Word
