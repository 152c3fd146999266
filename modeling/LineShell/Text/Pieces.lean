/-!
# Pieces between separators

A list cut at every separator. `piecesBy` never answers the empty list: a list without a separator
is one piece, and a separator at either end leaves an empty piece there. Paths are cut at slashes,
search paths at colons, a message at its line feeds and tabs; `joined` writes the pieces of a text
back.
-/

namespace LineShell.Text

/-- The pieces of a list between its separators, empty ones included. -/
def piecesBy {α : Type} (isSeparator : α → Bool) : List α → List (List α)
  | [] => [[]]
  | c :: cs =>
    if isSeparator c then [] :: piecesBy isSeparator cs
    else
      match piecesBy isSeparator cs with
      | [] => [[c]]
      | p :: ps => (c :: p) :: ps

/-- The pieces of a text between the occurrences of `sep`, empty ones included. -/
def pieces (sep : Char) (s : List Char) : List (List Char) := piecesBy (· == sep) s

/-- Pieces written one after another with `sep` between them. -/
def joined (sep : Char) : List (List Char) → List Char
  | [] => []
  | [p] => p
  | p :: q :: ps => p ++ sep :: joined sep (q :: ps)

theorem piecesBy_ne_nil {α : Type} (isSeparator : α → Bool) :
    ∀ s : List α, piecesBy isSeparator s ≠ []
  | [] => by simp [piecesBy]
  | c :: cs => by
    unfold piecesBy
    split
    · simp
    · split <;> simp

/-- What holds no separator is one piece. -/
theorem piecesBy_of_forall {α : Type} {isSeparator : α → Bool} {s : List α}
    (h : ∀ c ∈ s, isSeparator c = false) : piecesBy isSeparator s = [s] := by
  induction s with
  | nil => rfl
  | cons c cs ih =>
    have hc : isSeparator c = false := h c List.mem_cons_self
    rw [piecesBy, ih fun d hd => h d (List.mem_cons_of_mem _ hd), hc]
    rfl

/-- A separator cuts in two whatever stands around it. -/
theorem piecesBy_append_cons {α : Type} {isSeparator : α → Bool} (s : List α) {c : α}
    (hc : isSeparator c = true) (t : List α) :
    piecesBy isSeparator (s ++ c :: t) = piecesBy isSeparator s ++ piecesBy isSeparator t := by
  induction s with
  | nil => simp [piecesBy, hc]
  | cons d s ih =>
    simp only [List.cons_append, piecesBy, ih]
    cases hd : isSeparator d with
    | true => rfl
    | false =>
      cases hp : piecesBy isSeparator s with
      | nil => exact absurd hp (piecesBy_ne_nil _ s)
      | cons p ps => rfl

theorem pieces_ne_nil (sep : Char) (s : List Char) : pieces sep s ≠ [] := piecesBy_ne_nil _ s

/-- A piece holds no separator. -/
theorem not_mem_of_mem_pieces {sep : Char} {s p : List Char} (hp : p ∈ pieces sep s) : sep ∉ p := by
  induction s generalizing p with
  | nil =>
    cases List.mem_singleton.mp hp
    exact List.not_mem_nil
  | cons c cs ih =>
    unfold pieces piecesBy at hp
    split at hp
    · obtain rfl | hp := List.mem_cons.mp hp
      · exact List.not_mem_nil
      · exact ih hp
    · next hc =>
      have hc : sep ≠ c := fun heq => hc (beq_iff_eq.mpr heq.symm)
      split at hp
      · next hnil => exact absurd hnil (piecesBy_ne_nil _ cs)
      · next q qs hpieces =>
        have ih : ∀ r ∈ q :: qs, sep ∉ r := fun r hr => ih (by rw [pieces, hpieces]; exact hr)
        obtain rfl | hp := List.mem_cons.mp hp
        · exact List.not_mem_cons_of_ne_of_not_mem hc (ih q List.mem_cons_self)
        · exact ih p (List.mem_cons_of_mem _ hp)

/-- **Pieces are found again**: what is written between separators, and holds none, is cut back. -/
theorem pieces_joined {sep : Char} {ps : List (List Char)} (hne : ps ≠ [])
    (h : ∀ p ∈ ps, sep ∉ p) : pieces sep (joined sep ps) = ps := by
  have hpiece : ∀ p ∈ ps, piecesBy (· == sep) p = [p] := by
    intro p hp
    refine piecesBy_of_forall fun c hc => ?_
    have hc : c ≠ sep := fun heq => h p hp (heq ▸ hc)
    simpa using hc
  induction ps with
  | nil => exact absurd rfl hne
  | cons p ps ih =>
    cases ps with
    | nil => exact hpiece p List.mem_cons_self
    | cons q ps =>
      have ih : pieces sep (joined sep (q :: ps)) = q :: ps :=
        ih (List.cons_ne_nil _ _) (fun r hr => h r (List.mem_cons_of_mem _ hr))
          fun r hr => hpiece r (List.mem_cons_of_mem _ hr)
      calc pieces sep (p ++ sep :: joined sep (q :: ps))
          = piecesBy (· == sep) p ++ pieces sep (joined sep (q :: ps)) :=
            piecesBy_append_cons p (by simp) _
        _ = p :: q :: ps := by rw [hpiece p List.mem_cons_self, ih]; rfl

/-- **Cutting loses nothing**: the pieces with the separator between them are the text. -/
theorem joined_pieces (sep : Char) : ∀ s : List Char, joined sep (pieces sep s) = s
  | [] => rfl
  | c :: cs => by
    have ih : joined sep (piecesBy (· == sep) cs) = cs := joined_pieces sep cs
    unfold pieces piecesBy
    split
    · next h =>
      have h : c = sep := by simpa using h
      subst h
      cases hp : piecesBy (· == c) cs with
      | nil => exact absurd hp (piecesBy_ne_nil _ cs)
      | cons p ps => rw [hp] at ih; simp [joined, ih]
    · split
      · next hp => exact absurd hp (piecesBy_ne_nil _ cs)
      · next p ps hp =>
        rw [hp] at ih
        cases ps with
        | nil => simpa [joined] using ih
        | cons q qs => simpa [joined] using ih

end LineShell.Text
