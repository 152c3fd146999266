import LineShell.Command
import LineShell.Proofs.Walking

/-!
# Paths in print

A path that has been printed is read again in two ways: as a path, and as the steps of a walk. Both
find its segments, whatever anchor stands in front of them.

* `Step.ofPath_text`: a printed path is walked segment by segment;
* `Step.skips_ofPath`: so is a path as it was typed, but for steps that lead nowhere;
* `entryPath_eq`: the path of an entry is that of its directory with the name of the entry behind
  it, however the directory was typed.
-/

namespace LineShell

open Text

/-! ## 1. Segments in print -/

/-- What makes a text a name. -/
structure IsNameText (s : List Char) : Prop where
  ne_nil : s ≠ []
  ne_dot : s ≠ ['.']
  ne_dots : s ≠ ['.', '.']
  no_slash : '/' ∉ s

theorem isName_iff (s : List Char) : isName s = true ↔ IsNameText s := by
  constructor
  · intro h
    simp only [isName, Bool.and_eq_true] at h
    obtain ⟨⟨⟨h1, h2⟩, h3⟩, h4⟩ := h
    exact ⟨by simpa using h1, by simpa using h2, by simpa using h3, by simpa using h4⟩
  · intro h
    obtain ⟨h1, h2, h3, h4⟩ := h
    simp [isName, h1, h2, h3, h4]

theorem Name.isNameText (n : Name) : IsNameText n.text.toList := (isName_iff _).mp n.valid

theorem Name.ofChars?_text (n : Name) : Name.ofChars? n.text.toList = some n := by
  have hvalid := n.valid
  unfold ofChars?
  simp only [String.ofList_toList]
  rw [dif_pos hvalid]

theorem Segment.no_slash (s : Segment) : '/' ∉ s.text.toList := by
  cases s with
  | up => decide
  | down n => exact n.isNameText.no_slash

theorem Segment.text_ne_nil (s : Segment) : s.text.toList ≠ [] := by
  cases s with
  | up => decide
  | down n => exact n.isNameText.ne_nil

/-- The step that a segment is in a walk. -/
def Segment.step : Segment → Step
  | .up => .up
  | .down n => .enter n

theorem Segment.ofPiece?_text (s : Segment) : Step.ofPiece? s.text.toList = some s.step := by
  cases s with
  | up => rfl
  | down n =>
    have hname := n.isNameText
    show Step.ofPiece? n.text.toList = _
    rw [Step.ofPiece?, if_neg hname.ne_dot, if_neg hname.ne_dots, n.ofChars?_text]
    rfl

/-- The segments of a path with the slashes between them. -/
def Path.body (ss : List Segment) : List Char := joined '/' (ss.map (·.text.toList))

theorem joined_eq_intercalate (sep : Char) (ps : List (List Char)) :
    joined sep ps = [sep].intercalate ps := by
  induction ps with
  | nil => rfl
  | cons p ps ih =>
    cases ps with
    | nil => simp [joined]
    | cons q ps => rw [joined, ih, List.intercalate_cons_cons]; simp

theorem Path.toList_text {p : Path} (h : p.segments ≠ []) :
    p.text.toList = p.anchor.text.toList ++ body p.segments := by
  obtain ⟨anchor, segments⟩ := p
  have htext : text ⟨anchor, segments⟩ =
      anchor.text ++ "/".intercalate (segments.map Segment.text) := by
    cases anchor with
    | relative =>
      cases segments with
      | nil => exact absurd rfl h
      | cons s ss => rfl
    | root => rfl
    | doubleRoot => rfl
  rw [htext, String.toList_append, String.toList_intercalate, body, joined_eq_intercalate,
    List.map_map]
  rfl

theorem Path.pieces_body {ss : List Segment} (h : ss ≠ []) :
    pieces '/' (body ss) = ss.map (·.text.toList) := by
  refine pieces_joined (by simpa using h) ?_
  intro p hp
  obtain ⟨s, -, rfl⟩ := List.mem_map.mp hp
  exact s.no_slash

/-- The slashes of an anchor leave empty pieces. -/
theorem Anchor.pieces_append (a : Anchor) (cs : List Char) :
    ∃ es : List (List Char), (∀ e ∈ es, e = []) ∧
      pieces '/' (a.text.toList ++ cs) = es ++ pieces '/' cs := by
  cases a with
  | relative => exact ⟨[], nofun, rfl⟩
  | root => exact ⟨[[]], by simp, by simp [Anchor.text, pieces, piecesBy]⟩
  | doubleRoot => exact ⟨[[], []], by simp, by simp [Anchor.text, pieces, piecesBy]⟩

/-- No slash at either end of the segments of a path. -/
theorem Path.body_ends {ss : List Segment} (h : ss ≠ []) :
    (∃ c, (body ss).head? = some c ∧ c ≠ '/') ∧ ∃ c, (body ss).getLast? = some c ∧ c ≠ '/' := by
  have hsegment : ∀ s : Segment, ∀ c ∈ s.text.toList, c ≠ '/' :=
    fun s c hc heq => s.no_slash (heq ▸ hc)
  induction ss with
  | nil => exact absurd rfl h
  | cons s ss ih =>
    obtain ⟨c, cs, hs⟩ := List.exists_cons_of_ne_nil s.text_ne_nil
    have hc : c ≠ '/' := hsegment s c (hs ▸ List.mem_cons_self)
    cases ss with
    | nil =>
      have hbody : body [s] = c :: cs := hs
      rw [hbody]
      refine ⟨⟨c, rfl, hc⟩, _, List.getLast?_eq_some_getLast (List.cons_ne_nil _ _), ?_⟩
      refine hsegment s _ ?_
      rw [hs]
      exact List.getLast_mem _
    | cons t ss =>
      obtain ⟨-, d, hlast, hd⟩ := ih (List.cons_ne_nil _ _)
      have hbody : body (s :: t :: ss) = c :: cs ++ '/' :: body (t :: ss) := by
        rw [← hs]
        rfl
      rw [hbody]
      refine ⟨⟨c, rfl, hc⟩, d, ?_, hd⟩
      rw [List.getLast?_append, List.getLast?_cons, hlast]
      rfl

/-! ## 2. Walking what is printed -/

/-- **A printed path is walked segment by segment.** -/
theorem Step.ofPath_text {p : Path} (h : p.segments ≠ []) :
    Step.ofPath p.text.toList = p.segments.map Segment.step := by
  obtain ⟨-, c, hlast, hc⟩ := Path.body_ends h
  obtain ⟨es, hes, hpieces⟩ := p.anchor.pieces_append (Path.body p.segments)
  have hempty : es.filterMap Step.ofPiece? = [] := by
    rw [List.filterMap_eq_nil_iff]
    intro e he
    rw [hes e he]
    rfl
  have hsegments : (Step.ofPiece? ∘ fun s : Segment => s.text.toList) = some ∘ Segment.step :=
    funext Segment.ofPiece?_text
  have hsteps : (pieces '/' p.text.toList).filterMap Step.ofPiece? =
      p.segments.map Segment.step := by
    rw [Path.toList_text h, hpieces, Path.pieces_body h, List.filterMap_append, hempty,
      List.nil_append, List.filterMap_map, hsegments, List.filterMap_eq_map]
  have hend : p.text.toList.getLast? = some c := by
    rw [Path.toList_text h, List.getLast?_append, hlast]
    rfl
  unfold Step.ofPath
  simp [hsteps, hend, hc]

theorem isRooted_iff (s : List Char) : isRooted s = true ↔ s.head? = some '/' := by
  simp [isRooted]

/-- **A printed path starts where the path does.** -/
theorem Path.isRooted_text {p : Path} (h : p.segments ≠ []) :
    isRooted p.text.toList = p.isAbsolute := by
  obtain ⟨⟨c, hhead, hc⟩, -⟩ := body_ends h
  rw [toList_text h]
  obtain ⟨anchor, segments⟩ := p
  have hhead : (body segments).head? = some c := hhead
  cases anchor with
  | relative =>
    have hempty : Anchor.text .relative = "" := rfl
    simp [isRooted, isAbsolute, hempty, hhead, hc]
  | root =>
    have hslash : Anchor.text .root = "/" := rfl
    simp [isRooted, isAbsolute, hslash]
  | doubleRoot =>
    have hslashes : Anchor.text .doubleRoot = "//" := rfl
    simp [isRooted, isAbsolute, hslashes]

/-! ## 3. Paths as they are typed -/

/-- A piece is a segment, or a step that stays where it is, or nothing. -/
theorem Step.skips_piece (s : List Char) :
    Step.Skips (Step.ofPiece? s).toList ((Path.segment? s).map Segment.step).toList := by
  by_cases hdot : s = ['.']
  · subst hdot
    exact .stay .nil
  · by_cases hdots : s = ['.', '.']
    · subst hdots
      exact .refl _
    · rw [Step.ofPiece?, if_neg hdot, if_neg hdots, Path.segment?, if_neg hdots, Option.map_map]
      exact .refl _

theorem Step.skips_pieces (ps : List (List Char)) :
    Step.Skips (ps.filterMap Step.ofPiece?)
      ((ps.filterMap Path.segment?).map Segment.step) := by
  have hcons : ∀ {α : Type} (f : List Char → Option α) (p : List Char) (ps : List (List Char)),
      (p :: ps).filterMap f = (f p).toList ++ ps.filterMap f := by
    intro α f p ps
    rw [List.filterMap_cons]
    cases f p <;> rfl
  induction ps with
  | nil => exact .nil
  | cons p ps ih =>
    have hpiece := Step.skips_piece p
    rw [Option.toList_map] at hpiece
    rw [hcons, hcons, List.map_append]
    exact hpiece.append ih

/-- **A path as it was typed is walked like its segments**, but for steps that stay where they
    are. -/
theorem Step.skips_ofPath (d : String) :
    Step.Skips (Step.ofPath d.toList) ((Path.ofText d).segments.map Segment.step) := by
  have hpieces := Step.skips_pieces (pieces '/' d.toList)
  unfold Step.ofPath Path.ofText
  dsimp only
  split
  · have happend := hpieces.append (.slash .nil)
    rwa [List.append_nil] at happend
  · exact hpieces

theorem Path.isRooted_typed (d : String) : isRooted d.toList = (ofText d).isAbsolute := by
  have hanchor : (ofText d).anchor = Anchor.ofChars d.toList := rfl
  rw [isAbsolute, hanchor]
  unfold Anchor.ofChars
  split
  · next heq => rw [heq]; rfl
  · next heq => rw [heq]; rfl
  · next heq => rw [heq]; rfl
  · next hother =>
    cases hd : d.toList with
    | nil => rfl
    | cons c cs =>
      have hc : c ≠ '/' := fun heq => hother cs (by rw [hd, heq])
      simp [isRooted, hc]

/-! ## 4. Entries of directories -/

/-- A name behind a slash does not decide about the anchor. -/
theorem Anchor.ofChars_append (before : List Char) {c : Char} (hc : c ≠ '/') (cs : List Char) :
    Anchor.ofChars (before ++ '/' :: c :: cs) = Anchor.ofChars (before ++ ['/']) := by
  rcases before with _ | ⟨a, _ | ⟨b, _ | ⟨d, before⟩⟩⟩
  · simp [Anchor.ofChars, hc]
  · by_cases ha : a = '/' <;> simp [Anchor.ofChars, ha, hc]
  · by_cases ha : a = '/' <;> by_cases hb : b = '/' <;> simp [Anchor.ofChars, ha, hb]
  · by_cases ha : a = '/' <;> by_cases hb : b = '/' <;> by_cases hd : d = '/' <;>
      simp [Anchor.ofChars, ha, hb, hd]

/-- Nor does a slash behind a name. -/
theorem Anchor.ofChars_snoc_slash (before : List Char) {c : Char} (hc : c ≠ '/') :
    Anchor.ofChars (before ++ [c] ++ ['/']) = Anchor.ofChars (before ++ [c]) := by
  rcases before with _ | ⟨a, _ | ⟨b, _ | ⟨d, before⟩⟩⟩
  · simp [Anchor.ofChars, hc]
  · by_cases ha : a = '/' <;> simp [Anchor.ofChars, ha, hc]
  · by_cases ha : a = '/' <;> by_cases hb : b = '/' <;> simp [Anchor.ofChars, ha, hb, hc]
  · by_cases ha : a = '/' <;> by_cases hb : b = '/' <;> by_cases hd : d = '/' <;>
      simp [Anchor.ofChars, ha, hb, hd]

/-- The name below a directory stands behind a slash, and what stands before that is the
    directory. -/
theorem Machine.below_eq {d : String} (hd : d ≠ "") (name : String) :
    ∃ before, (below d name).toList = before ++ '/' :: name.toList ∧
      (Path.ofText d).anchor = Anchor.ofChars (before ++ ['/']) ∧
      (Path.ofText d).segments = (pieces '/' before).filterMap Path.segment? := by
  have hne : d.toList ≠ [] := fun h => hd (String.toList_eq_nil_iff.mp h)
  obtain ⟨before, c, hc⟩ := (List.eq_nil_or_concat d.toList).resolve_left hne
  rw [List.concat_eq_append] at hc
  have hlast : d.toList.getLast? = some c := by rw [hc, List.getLast?_concat]
  have htyped : Path.ofText d =
      ⟨Anchor.ofChars (before ++ [c]), (pieces '/' (before ++ [c])).filterMap Path.segment?⟩ := by
    rw [Path.ofText, hc]
  rw [htyped]
  by_cases hslash : c = '/'
  · subst hslash
    have hpieces : pieces '/' (before ++ ['/']) = pieces '/' before ++ [[]] :=
      piecesBy_append_cons before (by simp) []
    refine ⟨before, ?_, rfl, ?_⟩
    · simp [below, hc]
    · rw [hpieces, List.filterMap_append]
      exact List.append_nil _
  · refine ⟨d.toList, ?_, ?_, ?_⟩
    · simp [below, hlast, hd, hslash]
    · rw [hc, Anchor.ofChars_snoc_slash before hslash]
    · rw [hc]

/-- **The path of an entry** is that of its directory with the name behind it. -/
theorem entryPath_eq {d : String} (hd : d ≠ "") (n : Name) :
    entryPath d n.text = ⟨(Path.ofText d).anchor, (Path.ofText d).segments ++ [.down n]⟩ := by
  obtain ⟨before, hbelow, hanchor, hsegments⟩ := Machine.below_eq hd n.text
  obtain ⟨c, cs, hname⟩ := List.exists_cons_of_ne_nil n.isNameText.ne_nil
  have hc : c ≠ '/' := fun heq => n.isNameText.no_slash (by rw [hname, heq]; exact .head _)
  have hpieces : pieces '/' (before ++ '/' :: n.text.toList) =
      pieces '/' before ++ [n.text.toList] := by
    have hnone : ∀ p ∈ [n.text.toList], '/' ∉ p := by simpa using n.isNameText.no_slash
    have hwhole : pieces '/' n.text.toList = [n.text.toList] :=
      pieces_joined (List.cons_ne_nil _ _) hnone
    rw [← hwhole]
    exact piecesBy_append_cons before (by simp) _
  have hsegment : Path.segment? n.text.toList = some (.down n) := by
    rw [Path.segment?, if_neg n.isNameText.ne_dots, n.ofChars?_text]
    rfl
  have hentry : entryPath d n.text =
      ⟨Anchor.ofChars (before ++ '/' :: n.text.toList),
        (pieces '/' (before ++ '/' :: n.text.toList)).filterMap Path.segment?⟩ := by
    rw [← hbelow]
    rfl
  rw [hentry, hpieces, hanchor, hsegments, List.filterMap_append, List.filterMap_cons, hsegment,
    hname, Anchor.ofChars_append before hc]
  rfl

end LineShell
