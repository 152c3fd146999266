import LineShell.Text.CharClass

/-!
# Blanks

Which characters separate words, and how a text is trimmed of them.

`blankRanges` is data of a standard: the white space of Unicode, with the four information separators
`U+001C` to `U+001F` that text processing treats the same way.
-/

namespace LineShell.Text

/-! ## 1. The class -/

def blankRanges : List (Nat × Nat) :=
  [(0x09, 0x0D), (0x1C, 0x20), (0x85, 0x85), (0xA0, 0xA0), (0x1680, 0x1680), (0x2000, 0x200A),
   (0x2028, 0x2029), (0x202F, 0x202F), (0x205F, 0x205F), (0x3000, 0x3000)]

/-- A character that separates words. -/
def isBlank (c : Char) : Bool := inRanges blankRanges c

/-! ## 2. Trimming -/

def trimStart (s : List Char) : List Char := s.dropWhile isBlank

def trimEnd (s : List Char) : List Char := (s.reverse.dropWhile isBlank).reverse

def trim (s : String) : String := String.ofList (trimEnd (trimStart s.toList))

/-- What is dropped at the end of a text stands behind what is left of it. -/
theorem exists_append_dropEnd (p : Char → Bool) (s : List Char) :
    ∃ ending, s = (s.reverse.dropWhile p).reverse ++ ending ∧ ∀ c ∈ ending, p c = true := by
  refine ⟨(s.reverse.takeWhile p).reverse, ?_, fun c hc => ?_⟩
  · rw [← List.reverse_append, List.takeWhile_append_dropWhile, List.reverse_reverse]
  · exact List.all_eq_true.mp List.all_takeWhile c (List.mem_reverse.mp hc)

/-- Blanks behind a text are trimmed with it. -/
theorem trimEnd_append (s : List Char) {t : List Char} (h : ∀ c ∈ t, isBlank c = true) :
    trimEnd (s ++ t) = trimEnd s := by
  have hback : ∀ c ∈ t.reverse, isBlank c = true := fun c hc => h c (List.mem_reverse.mp hc)
  rw [trimEnd, List.reverse_append, List.dropWhile_append_of_pos hback, trimEnd]

/-- In front of a text that is not all blank, a character stays when the end is trimmed. -/
theorem trimEnd_cons (c : Char) (s : List Char) :
    trimEnd (c :: s) = if trimEnd s = [] ∧ isBlank c = true then [] else c :: trimEnd s := by
  unfold trimEnd
  rw [List.reverse_cons, List.dropWhile_append]
  by_cases hs : s.reverse.dropWhile isBlank = []
  · cases hc : isBlank c <;> simp [hs, hc]
  · have hne : (s.reverse.dropWhile isBlank).isEmpty = false := by simpa using hs
    simp [hs, hne]

/-- It is the same which end is trimmed first. -/
theorem trimStart_trimEnd (s : List Char) : trimStart (trimEnd s) = trimEnd (trimStart s) := by
  induction s with
  | nil => rfl
  | cons c s ih =>
    cases hc : isBlank c with
    | true =>
      have hstart : trimStart (c :: s) = trimStart s := List.dropWhile_cons_of_pos hc
      rw [hstart, ← ih, trimEnd_cons]
      split
      · next h => rw [h.1]
      · exact List.dropWhile_cons_of_pos hc
    | false =>
      have hstart : ∀ t, trimStart (c :: t) = c :: t := fun t =>
        List.dropWhile_cons_of_neg (Bool.eq_false_iff.mp hc)
      have hend : trimEnd (c :: s) = c :: trimEnd s := by
        rw [trimEnd_cons, if_neg]
        exact fun h => Bool.false_ne_true (hc.symm.trans h.2)
      rw [hend, hstart, hstart, hend]

/-- A text means the same with blanks behind it. -/
theorem trim_append (s : List Char) {t : List Char} (h : ∀ c ∈ t, isBlank c = true) :
    trim (String.ofList (s ++ t)) = trim (String.ofList s) := by
  simp only [trim, String.toList_ofList, ← trimStart_trimEnd, trimEnd_append s h]

end LineShell.Text
