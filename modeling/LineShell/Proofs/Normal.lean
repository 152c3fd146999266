import LineShell.Session

/-!
# Normal paths

A path is normal when it starts at the root and takes no step up. What is read from a text has names
for segments, and a name is neither empty nor one or two dots, so a normal path is printed with the
slashes of its anchor and its names between slashes.

* `Path.isNormal_collapse`: an absolute path is normal when its steps up have been taken back;
* `Path.isNormal_resolve`: whatever a target is, read from an absolute directory it is normal;
* `Session.start_eq_ok`: a session starts in a normal directory, and only once the machine has
  entered it.
-/

namespace LineShell

namespace Path

/-- The path starts at the root, and every segment of it is a name. -/
structure IsNormal (p : Path) : Prop where
  absolute : p.isAbsolute = true
  names : ∃ ns : List Name, p.segments = ns.map .down

/-! ## 1. Printing -/

/-- **A normal path in print**: one slash or exactly two, and then the names, none of which is empty
    or made of one or two dots alone, with one slash between them. -/
theorem IsNormal.text_eq {p : Path} (h : p.IsNormal) :
    ∃ lead ∈ ["/", "//"], ∃ ns : List Name,
      p.text = lead ++ "/".intercalate (ns.map Name.text) := by
  obtain ⟨anchor, segments⟩ := p
  obtain ⟨habsolute, ns, rfl⟩ := h
  have hnames : (ns.map Segment.down).map Segment.text = ns.map Name.text := List.map_map
  have htext : ∀ a : Anchor, a ≠ .relative →
      text ⟨a, ns.map .down⟩ = a.text ++ "/".intercalate (ns.map Name.text) := by
    intro a ha
    rw [← hnames]
    cases a with
    | relative => exact absurd rfl ha
    | root => rfl
    | doubleRoot => rfl
  cases anchor with
  | relative => cases habsolute
  | root => exact ⟨"/", .head _, ns, htext .root nofun⟩
  | doubleRoot => exact ⟨"//", .tail _ (.head _), ns, htext .doubleRoot nofun⟩

/-- A text that starts with a slash is read as an absolute path. -/
theorem isAbsolute_ofText (rest : String) : (ofText ("/" ++ rest)).isAbsolute = true := by
  have hanchor : (ofText ("/" ++ rest)).anchor = Anchor.ofChars ('/' :: rest.toList) := by
    rw [ofText, String.toList_append]
    rfl
  rw [isAbsolute, hanchor]
  unfold Anchor.ofChars
  split
  · rfl
  · rfl
  · rfl
  · next h => exact absurd rfl (h _)

/-! ## 2. Collapsing -/

/-- One more segment at the root leaves names alone. -/
theorem collapseStep_names (ns : List Name) (s : Segment) :
    ∃ ms : List Name, collapseStep true (ns.map .down) s = ms.map .down := by
  cases s with
  | down n => exact ⟨n :: ns, rfl⟩
  | up =>
    cases ns with
    | nil => exact ⟨[], rfl⟩
    | cons n ns => exact ⟨ns, rfl⟩

theorem foldl_collapseStep_names (ss : List Segment) (ns : List Name) :
    ∃ ms : List Name, ss.foldl (collapseStep true) (ns.map .down) = ms.map .down := by
  induction ss generalizing ns with
  | nil => exact ⟨ns, rfl⟩
  | cons s ss ih =>
    obtain ⟨ms, hms⟩ := collapseStep_names ns s
    obtain ⟨ks, hks⟩ := ih ms
    exact ⟨ks, by rw [List.foldl_cons, hms, hks]⟩

/-- **Taking the steps up back makes an absolute path normal.** -/
theorem isNormal_collapse {p : Path} (h : p.isAbsolute = true) : p.collapse.IsNormal where
  absolute := h
  names := by
    obtain ⟨ms, hms⟩ := foldl_collapseStep_names p.segments []
    refine ⟨ms.reverse, ?_⟩
    unfold collapse
    rw [h, List.map_reverse]
    exact congrArg List.reverse hms

/-! ## 3. Joining -/

/-- A path read from an absolute one is absolute, whichever of the two it starts with. -/
theorem isAbsolute_join {p : Path} (h : p.isAbsolute = true) (q : Path) :
    (p.join q).isAbsolute = true := by
  obtain ⟨anchor, segments⟩ := q
  cases anchor with
  | relative => exact h
  | root => rfl
  | doubleRoot => rfl

/-- **Whatever a target is, it names a normal path in an absolute directory.** -/
theorem isNormal_resolve {p : Path} (h : p.isAbsolute = true) (target : String) :
    (p.resolve target).IsNormal :=
  isNormal_collapse (isAbsolute_join h _)

end Path

/-! ## 4. The start of a session -/

/-- A location is printed as an absolute path. -/
theorem Location.isAbsolute_ofText (l : Location) : (Path.ofText l.text).isAbsolute = true := by
  have htext : l.text =
      "/" ++ "/".intercalate ((l.reverse.map Segment.down).map Segment.text) := rfl
  rw [htext]
  exact Path.isAbsolute_ofText _

namespace Session

theorem isNormal_absolute {m : Machine} {directory d : Path} (h : absolute m directory = .ok d) :
    d.IsNormal := by
  unfold absolute at h
  split at h
  · next habsolute =>
    cases h
    exact Path.isNormal_collapse habsolute
  · unfold Machine.workingDirectory? at h
    split at h
    · next here heq =>
      cases h
      split at heq
      · cases heq
        exact Path.isNormal_collapse (Path.isAbsolute_join (Location.isAbsolute_ofText _) _)
      · cases heq
    · cases h

/-- A session that has started is where the machine has gone: in the normal form of the directory it
    was given. -/
theorem start_eq_ok {m m' : Machine} {directory : String} {home : Path} {s : Session}
    (h : start m directory home = .ok (m', s)) :
    absolute m (Path.ofText directory) = .ok s.directory ∧ m.chdir s.directory = .ok m' ∧
      s.home = home := by
  unfold start at h
  cases ha : absolute m (Path.ofText directory) with
  | error f =>
    rw [ha] at h
    cases h
  | ok d =>
    rw [ha] at h
    cases hm : m.chdir d with
    | ok m₁ =>
      simp only [hm] at h
      cases h
      exact ⟨rfl, hm, rfl⟩
    | error f =>
      simp only [hm] at h
      cases f <;> cases h

end Session

end LineShell
