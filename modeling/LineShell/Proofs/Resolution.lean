import LineShell.Proofs.PathText
import LineShell.Proofs.Whereabouts

/-!
# Targets one after another

The directory that a session comes to by several targets, each read from where the one before has
led, can be said at once: the targets are joined as texts, and the result is read from the first
directory. What a target names is worked out anew at each step, so this is not how it is done.

* `Path.collapse_collapse_join`: steps up that have been taken back are taken back for good;
* `Path.ofText_text`: what a path is printed as is read as the path again;
* `Path.joinText` joins two texts, and `Path.ofText_joinText` says that these name the joined paths;
* `Session.follow_composes` is what several targets come to, and `Session.follow` one of them;
* `Session.tilde_is_home_unless_root`: a target behind a tilde and a slash is that target read from
  home, with one exception. A home without segments is printed as its slashes alone, and one more
  slash behind them makes another anchor.
-/

namespace LineShell

open Text

namespace Path

/-! ## 1. Collapsing twice -/

/-- Names are kept, whatever has been collapsed before. -/
theorem foldl_collapseStep_down (anchored : Bool) (ns : List Name) (done : List Segment) :
    (ns.map Segment.down).foldl (collapseStep anchored) done =
      (ns.map Segment.down).reverse ++ done := by
  induction ns generalizing done with
  | nil => rfl
  | cons n ns ih =>
    have hstep : collapseStep anchored done (.down n) = .down n :: done := by
      cases done <;> rfl
    rw [List.map_cons, List.foldl_cons, hstep, ih]
    simp

theorem IsNormal.foldl_segments {p : Path} (h : p.IsNormal) :
    p.segments.foldl (collapseStep p.isAbsolute) [] = p.segments.reverse := by
  obtain ⟨ns, hns⟩ := h.names
  rw [hns, foldl_collapseStep_down, List.append_nil]

/-- A normal path has nothing to take back. -/
theorem IsNormal.collapse_eq {p : Path} (h : p.IsNormal) : p.collapse = p := by
  rw [collapse, h.foldl_segments, List.reverse_reverse]

theorem join_of_isAbsolute (p : Path) {q : Path} (h : q.isAbsolute = true) : p.join q = q := by
  obtain ⟨anchor, segments⟩ := q
  cases anchor with
  | relative => cases h
  | root => rfl
  | doubleRoot => rfl

theorem join_relative (p : Path) {q : Path} (h : q.isAbsolute = false) :
    p.join q = ⟨p.anchor, p.segments ++ q.segments⟩ := by
  obtain ⟨anchor, segments⟩ := q
  cases anchor with
  | relative => rfl
  | root => cases h
  | doubleRoot => cases h

theorem join_assoc (p q r : Path) : p.join (q.join r) = (p.join q).join r := by
  obtain ⟨above, segments⟩ := q
  obtain ⟨anchor, names⟩ := r
  cases anchor with
  | relative => cases above <;> simp [join]
  | root => rfl
  | doubleRoot => rfl

theorem anchor_collapse (p : Path) : p.collapse.anchor = p.anchor := rfl

theorem isAbsolute_collapse (p : Path) : p.collapse.isAbsolute = p.isAbsolute := rfl

/-- What is read from a directory goes on where the directory has been collapsed to. -/
theorem collapse_join (p : Path) {q : Path} (h : q.isAbsolute = false) :
    (p.join q).collapse =
      ⟨p.anchor, (q.segments.foldl (collapseStep p.isAbsolute)
        (p.segments.foldl (collapseStep p.isAbsolute) [])).reverse⟩ := by
  rw [join_relative p h, collapse, ← List.foldl_append]
  rfl

theorem foldl_segments_collapse {p : Path} (h : p.isAbsolute = true) :
    p.collapse.segments.foldl (collapseStep p.isAbsolute) [] =
      p.segments.foldl (collapseStep p.isAbsolute) [] :=
  (isNormal_collapse h).foldl_segments.trans (List.reverse_reverse _)

/-- **Steps up are taken back once**: it is the same whether those of the directory have been taken
    back before the rest is read from it. -/
theorem collapse_collapse_join {p : Path} (h : p.isAbsolute = true) (q : Path) :
    (p.collapse.join q).collapse = (p.join q).collapse := by
  cases hq : q.isAbsolute with
  | true => rw [join_of_isAbsolute _ hq, join_of_isAbsolute _ hq]
  | false =>
    rw [collapse_join _ hq, collapse_join _ hq, anchor_collapse, isAbsolute_collapse,
      foldl_segments_collapse h]

/-! ## 2. Printed paths -/

theorem segment?_text (s : Segment) : segment? s.text.toList = some s := by
  cases s with
  | up => rfl
  | down n =>
    show segment? n.text.toList = _
    rw [segment?, if_neg n.isNameText.ne_dots, n.ofChars?_text]
    rfl

/-- The slashes of an anchor are read as the anchor, unless there is another one behind them. -/
theorem ofChars_anchor_text (a : Anchor) {c : Char} (hc : c ≠ '/') (cs : List Char) :
    Anchor.ofChars (a.text.toList ++ c :: cs) = a := by
  cases a with
  | relative => simp [Anchor.text, Anchor.ofChars, hc]
  | root => simp [Anchor.text, Anchor.ofChars, hc]
  | doubleRoot => simp [Anchor.text, Anchor.ofChars, hc]

/-- **A printed path is read as itself.** -/
theorem ofText_text (p : Path) : ofText p.text = p := by
  obtain ⟨anchor, segments⟩ := p
  by_cases h : segments = []
  · subst h
    cases anchor <;> decide
  · obtain ⟨⟨c, hhead, hc⟩, -⟩ := body_ends h
    obtain ⟨cs, hbody⟩ := List.head?_eq_some_iff.mp hhead
    obtain ⟨es, hes, hpieces⟩ := anchor.pieces_append (body segments)
    have hempty : es.filterMap segment? = [] := by
      rw [List.filterMap_eq_nil_iff]
      intro e he
      rw [hes e he]
      rfl
    have hsegments : (segment? ∘ fun s : Segment => s.text.toList) = some :=
      funext segment?_text
    have hanchor : Anchor.ofChars (anchor.text.toList ++ body segments) = anchor := by
      rw [hbody, ofChars_anchor_text anchor hc]
    rw [ofText, toList_text h, hanchor, hpieces, pieces_body h, List.filterMap_append, hempty,
      List.nil_append, List.filterMap_map, hsegments, List.filterMap_some]

/-- A normal path in print names the same path in any directory. -/
theorem IsNormal.resolve_text {q : Path} (h : q.IsNormal) (p : Path) : p.resolve q.text = q := by
  rw [resolve, ofText_text, join_of_isAbsolute p h.absolute, h.collapse_eq]

theorem text_down (x : Name) : text ⟨.relative, [.down x]⟩ = x.text := by
  simp [text, Anchor.text, Segment.text]

/-! ## 3. Joined texts -/

/-- One path read from the directory that another names, both as texts: a text that starts with a
    slash stands for itself. -/
def joinText (directory target : String) : String :=
  if isRooted target.toList then target else Machine.below directory target

/-- **Joined texts name the joined paths.** -/
theorem ofText_joinText (a b : String) : ofText (joinText a b) = (ofText a).join (ofText b) := by
  unfold joinText
  cases hb : isRooted b.toList with
  | true =>
    have habsolute : (ofText b).isAbsolute = true := (isRooted_typed b).symm.trans hb
    rw [if_pos rfl, join_of_isAbsolute _ habsolute]
  | false =>
    have hrelative : (ofText b).isAbsolute = false := (isRooted_typed b).symm.trans hb
    rw [if_neg Bool.false_ne_true, join_relative _ hrelative]
    by_cases ha : a = ""
    · subst ha
      have hanchor : (ofText b).anchor = .relative := by
        simpa [isAbsolute] using hrelative
      show ofText (Machine.below "" b) = ⟨.relative, [] ++ (ofText b).segments⟩
      rw [← hanchor]
      simp [Machine.below]
    · obtain ⟨before, hbelow, hanchor, hsegments⟩ := Machine.below_eq ha b
      have hpieces : pieces '/' (before ++ '/' :: b.toList) =
          pieces '/' before ++ pieces '/' b.toList :=
        piecesBy_append_cons before (by simp) _
      have hslash : Anchor.ofChars (before ++ '/' :: b.toList) =
          Anchor.ofChars (before ++ ['/']) := by
        cases hchars : b.toList with
        | nil => rfl
        | cons c cs =>
          refine Anchor.ofChars_append before (fun hc => ?_) cs
          rw [hchars, hc] at hb
          cases hb
      rw [hanchor, hsegments, ← hslash, ofText, hbelow, hpieces, List.filterMap_append]
      rfl

/-- A target is read from the directory as the directory is printed. -/
theorem resolve_eq_collapse_joinText (p : Path) (target : String) :
    p.resolve target = (ofText (joinText p.text target)).collapse := by
  rw [ofText_joinText, ofText_text, resolve]

/-- Two targets in turn are one target, the two joined. -/
theorem resolve_resolve {p : Path} (h : p.isAbsolute = true) (a b : String) :
    (p.resolve a).resolve b = p.resolve (joinText a b) := by
  unfold resolve
  rw [collapse_collapse_join (isAbsolute_join h _), ofText_joinText, join_assoc]

/-- **Targets in turn are one target**, all of them joined. -/
theorem foldl_resolve {p : Path} (h : p.isAbsolute = true) (first : String)
    (rest : List String) :
    (first :: rest).foldl resolve p = p.resolve (rest.foldl joinText first) := by
  induction rest generalizing first with
  | nil => rfl
  | cons target rest ih =>
    calc (first :: target :: rest).foldl resolve p
        = rest.foldl resolve ((p.resolve first).resolve target) := rfl
      _ = (joinText first target :: rest).foldl resolve p := by
          rw [resolve_resolve h, List.foldl_cons]
      _ = p.resolve ((target :: rest).foldl joinText first) := ih _

/-- **One name down and one step up** is nowhere else. -/
theorem IsNormal.resolve_up {p : Path} (h : p.IsNormal) (x : Name) :
    (p.resolve x.text).resolve ".." = p := by
  have hname : ofText x.text = ⟨.relative, [.down x]⟩ := by
    rw [← text_down, ofText_text]
  have hup : ofText ".." = ⟨.relative, [.up]⟩ := by decide
  unfold resolve
  rw [collapse_collapse_join (isAbsolute_join h.absolute _), ← join_assoc, hname, hup,
    collapse_join p rfl, h.foldl_segments]
  simp [join, collapseStep]

end Path

/-! ## 4. One more slash -/

/-- The anchor that is written with one slash more. -/
def Anchor.slashed : Anchor → Anchor
  | .relative => .root
  | .root => .doubleRoot
  | .doubleRoot => .root

theorem Anchor.slashed_ne (a : Anchor) : a.slashed ≠ a := by
  cases a <;> decide

theorem Anchor.isAbsolute_slashed (a : Anchor) (ss : List Segment) :
    (Path.mk a.slashed ss).isAbsolute = true := by
  cases a <;> rfl

namespace Path

theorem isRooted_eq_false {r : String} (hr : r.toList.head? ≠ some '/') :
    isRooted r.toList = false := by
  rw [← Bool.not_eq_true, isRooted_iff]
  exact hr

theorem isAbsolute_ofText_eq_false {r : String} (hr : r.toList.head? ≠ some '/') :
    (ofText r).isAbsolute = false :=
  (isRooted_typed r).symm.trans (isRooted_eq_false hr)

/-- A slash behind the slashes of an anchor makes another anchor. -/
theorem ofText_anchor_slash (a : Anchor) {r : String} (hr : r.toList.head? ≠ some '/') :
    ofText (a.text ++ "/" ++ r) = ⟨a.slashed, (ofText r).segments⟩ := by
  have hchars : (a.text ++ "/" ++ r).toList = a.text.toList ++ '/' :: r.toList := by simp
  have hanchor : Anchor.ofChars (a.text.toList ++ '/' :: r.toList) = a.slashed := by
    cases hcs : r.toList with
    | nil => cases a <;> decide
    | cons c cs =>
      have hc : c ≠ '/' := fun heq => hr (by rw [hcs, heq]; rfl)
      cases a <;> simp [Anchor.text, Anchor.ofChars, Anchor.slashed, hc]
  have hsegments : (pieces '/' (a.text.toList ++ '/' :: r.toList)).filterMap segment? =
      (ofText r).segments := by
    cases a <;> rfl
  rw [ofText, hchars, hanchor, hsegments]

/-- A root is printed as its slashes. -/
theorem text_of_segments_nil {p : Path} (h : p.isAbsolute = true) (hs : p.segments = []) :
    p.text = p.anchor.text := by
  obtain ⟨anchor, segments⟩ := p
  have hs : segments = [] := hs
  subst hs
  cases anchor with
  | relative => cases h
  | root => rfl
  | doubleRoot => rfl

/-- A slash behind segments leads below them. -/
theorem ofText_text_slash {p : Path} (h : p.segments ≠ []) {r : String}
    (hr : r.toList.head? ≠ some '/') : ofText (p.text ++ "/" ++ r) = p.join (ofText r) := by
  obtain ⟨-, c, hlast, hc⟩ := body_ends h
  have hend : p.text.toList.getLast? = some c := by
    rw [toList_text h, List.getLast?_append, hlast]
    rfl
  have hne : p.text ≠ "" := fun hempty => by
    rw [hempty] at hend
    cases hend
  have hjoined : joinText p.text r = p.text ++ "/" ++ r := by
    rw [joinText, if_neg (by simp [isRooted_eq_false hr]), Machine.below, if_neg]
    simp [hne, hend, hc]
  rw [← hjoined, ofText_joinText, ofText_text]

end Path

namespace Session

/-! ## 5. Targets in turn -/

/-- The session in the directory that a target names. -/
def follow (s : Session) (target : String) : Session := s.entered (s.resolve target)

/-- The session in the directory that the arguments of `cd` ask for. -/
def move (s : Session) (arguments : List String) : Session := s.entered (s.destination arguments)

theorem foldl_follow (s : Session) (targets : List String) :
    targets.foldl follow s = s.entered (targets.foldl Path.resolve s.directory) := by
  induction targets generalizing s with
  | nil => rfl
  | cons target targets ih => exact ih (s.follow target)

theorem target_of_no_tilde (s : Session) {a : String} (h : a.toList.head? ≠ some '~') :
    s.target [a] = a := by
  unfold target
  dsimp only
  split
  · next rest heq =>
    rw [heq] at h
    exact absurd rfl h
  · rfl

/-- **Several targets are one.** From an absolute directory, targets that are followed one after
    another lead where their texts, joined, lead at once. A target is joined to the directory as
    that is printed; where it leads is a normal path, printed without dots and empty parts, and what
    is printed names the same path in any directory. So a step up takes back the name before it. -/
theorem follow_composes {s : Session} (h : s.directory.isAbsolute = true) :
    (∀ first rest, (first :: rest).foldl follow s =
        s.entered (s.resolve (rest.foldl Path.joinText first))) ∧
      (∀ target,
        s.resolve target = (Path.ofText (Path.joinText s.directory.text target)).collapse ∧
        (s.resolve target).IsNormal ∧
        (∃ lead ∈ ["/", "//"], ∃ ns : List Name,
          (s.resolve target).text = lead ++ "/".intercalate (ns.map Name.text)) ∧
        ∀ t : Session, t.resolve (s.resolve target).text = s.resolve target) ∧
      (s.directory.IsNormal → ∀ x : Name, (s.follow x.text).follow ".." = s ∧
        (x.text.toList.head? ≠ some '~' → (s.move [x.text]).move [".."] = s)) := by
  refine ⟨fun first rest => ?_, fun target => ?_, fun hnormal x => ?_⟩
  · rw [foldl_follow, Path.foldl_resolve h]
    rfl
  · have htarget : (s.resolve target).IsNormal := Path.isNormal_resolve h target
    exact ⟨s.directory.resolve_eq_collapse_joinText target, htarget, htarget.text_eq,
      fun t => htarget.resolve_text t.directory⟩
  · have hback : (s.follow x.text).follow ".." = s :=
      congrArg s.entered (hnormal.resolve_up x)
    refine ⟨hback, fun hx => ?_⟩
    have hdown : s.move [x.text] = s.follow x.text := by
      rw [move, destination, s.target_of_no_tilde hx]
      rfl
    have hup : (s.follow x.text).move [".."] = (s.follow x.text).follow ".." := rfl
    rw [hdown, hup, hback]

/-- A directory that is printed with two slashes, targets of all kinds, and a way there and back. -/
theorem follow_composes_mixed :
    (Session.mk ⟨.doubleRoot, [.down ⟨"a", by decide⟩]⟩ .root).directory.isAbsolute = true ∧
      ["b/./c//", "", "../..//..", "d", ".."].foldl follow
          ⟨⟨.doubleRoot, [.down ⟨"a", by decide⟩]⟩, .root⟩ = ⟨⟨.doubleRoot, []⟩, .root⟩ ∧
      (Path.mk .doubleRoot [.down ⟨"a", by decide⟩]).IsNormal ∧
      "b".toList.head? ≠ some '~' ∧
      ((Session.mk ⟨.doubleRoot, [.down ⟨"a", by decide⟩]⟩ .root).move ["b"]).move [".."] =
        ⟨⟨.doubleRoot, [.down ⟨"a", by decide⟩]⟩, .root⟩ := by
  have hnormal : (Path.mk .doubleRoot [.down ⟨"a", by decide⟩]).IsNormal :=
    ⟨rfl, [⟨"a", by decide⟩], rfl⟩
  obtain ⟨hturns, -, hback⟩ :=
    follow_composes (s := ⟨⟨.doubleRoot, [.down ⟨"a", by decide⟩]⟩, .root⟩) rfl
  refine ⟨rfl, ?_, hnormal, by decide, (hback hnormal ⟨"b", by decide⟩).2 (by decide)⟩
  rw [hturns]
  decide +kernel

/-! ## 6. Home -/

/-- What is read from home is read from the path of home. -/
theorem resolve_move_home {s : Session} (h : s.home.isAbsolute = true) (r : String) :
    (s.move []).resolve r = s.home.resolve r := by
  have hdirectory : (s.move []).directory = s.home.collapse := by
    show (s.directory.join (Path.ofText s.home.text)).collapse = _
    rw [Path.ofText_text, Path.join_of_isAbsolute _ h]
  rw [resolve, hdirectory, Path.resolve, Path.collapse_collapse_join h, Path.resolve]

theorem destination_tilde (s : Session) (rest : String) :
    s.destination ["~" ++ rest] = s.resolve (s.home.text ++ rest) := by
  have hchars : ("~" ++ rest).toList = '~' :: rest.toList := by simp
  rw [destination, target]
  simp only [hchars, String.ofList_toList]

theorem destination_tilde_slash (s : Session) (r : String) :
    s.destination ["~/" ++ r] = s.resolve (s.home.text ++ "/" ++ r) := by
  rw [String.append_assoc, ← destination_tilde, ← String.append_assoc]
  rfl

/-- Behind a tilde and a slash stands what is read from home, where home has segments. -/
theorem destination_home {s : Session} (hhome : s.home.isAbsolute = true)
    (h : s.home.segments ≠ []) {r : String} (hr : r.toList.head? ≠ some '/') :
    s.destination ["~/" ++ r] = (s.move []).resolve r := by
  rw [destination_tilde_slash, resolve, Path.resolve, Path.ofText_text_slash h hr,
    Path.join_of_isAbsolute _ (Path.isAbsolute_join hhome _), resolve_move_home hhome, Path.resolve]

/-- Where home has none, the slash goes to the anchor. -/
theorem destination_home_root {s : Session} (hhome : s.home.isAbsolute = true)
    (h : s.home.segments = []) {r : String} (hr : r.toList.head? ≠ some '/') :
    s.destination ["~/" ++ r] =
      ⟨s.home.anchor.slashed, ((s.move []).resolve r).segments⟩ := by
  have hslashed : (Path.mk s.home.anchor.slashed (Path.ofText r).segments).isAbsolute = true :=
    s.home.anchor.isAbsolute_slashed _
  have hanchored : (Path.mk s.home.anchor (Path.ofText r).segments).isAbsolute = true := hhome
  have hfrom : s.home.resolve r = (Path.mk s.home.anchor (Path.ofText r).segments).collapse := by
    rw [Path.resolve, Path.join_relative _ (Path.isAbsolute_ofText_eq_false hr), h, List.nil_append]
  rw [resolve_move_home hhome, hfrom, destination_tilde_slash, Path.text_of_segments_nil hhome h,
    resolve, Path.resolve, Path.ofText_anchor_slash _ hr, Path.join_of_isAbsolute _ hslashed,
    Path.collapse, Path.collapse, hslashed, hanchored]

/-- **A tilde and a slash stand for home, unless home is a root.** A target behind them leads where
    it leads from home, by the same segments in any case; and it is the same path exactly if home
    has segments. Otherwise the slash goes to the anchor. -/
theorem tilde_is_home_unless_root {s : Session} (hhome : s.home.isAbsolute = true) {r : String}
    (hr : r.toList.head? ≠ some '/') :
    (s.destination ["~/" ++ r] = (s.move []).resolve r ↔ s.home.segments ≠ []) ∧
      (s.destination ["~/" ++ r]).segments = ((s.move []).resolve r).segments ∧
      (s.home.segments = [] → (s.destination ["~/" ++ r]).anchor = s.home.anchor.slashed) ∧
      (r.toList.head? ≠ some '~' →
        (s.move ["~/" ++ r] = (s.move []).move [r] ↔ s.home.segments ≠ [])) := by
  have hsame : s.destination ["~/" ++ r] = (s.move []).resolve r ↔ s.home.segments ≠ [] := by
    refine ⟨fun heq h => ?_, fun h => destination_home hhome h hr⟩
    rw [destination_home_root hhome h hr] at heq
    have hanchor : ((s.move []).resolve r).anchor = s.home.anchor := by
      rw [resolve_move_home hhome, Path.resolve, Path.anchor_collapse,
        Path.join_relative _ (Path.isAbsolute_ofText_eq_false hr)]
    exact Anchor.slashed_ne _ ((congrArg Path.anchor heq).trans hanchor)
  refine ⟨hsame, ?_, fun h => ?_, fun htilde => ?_⟩
  · by_cases h : s.home.segments = []
    · rw [destination_home_root hhome h hr]
    · rw [hsame.mpr h]
  · rw [destination_home_root hhome h hr]
  · rw [← hsame]
    have hmoved : (s.move []).move [r] = s.entered ((s.move []).resolve r) := by
      rw [move, destination, target_of_no_tilde _ htilde]
      rfl
    rw [hmoved]
    exact ⟨congrArg Session.directory, congrArg s.entered⟩

/-- A target behind a tilde that leaves a home with one segment, and is read from home as well. -/
theorem tilde_is_home_unless_root_above :
    (Session.mk .root ⟨.root, [.down ⟨"u", by decide⟩]⟩).home.isAbsolute = true ∧
      "../b//".toList.head? ≠ some '/' ∧ "../b//".toList.head? ≠ some '~' ∧
      (Session.mk .root ⟨.root, [.down ⟨"u", by decide⟩]⟩).move ["~/" ++ "../b//"] =
        ((Session.mk .root ⟨.root, [.down ⟨"u", by decide⟩]⟩).move []).move ["../b//"] :=
  ⟨rfl, by decide, by decide,
    ((tilde_is_home_unless_root rfl (by decide)).2.2.2 (by decide)).mpr (List.cons_ne_nil _ _)⟩

/-- From the root, which is home, a tilde and a slash lead to a path with two slashes. -/
theorem tilde_is_not_home_at_root :
    (Session.mk .root .root).home.isAbsolute = true ∧ "tmp".toList.head? ≠ some '/' ∧
      ((Session.mk .root .root).destination ["~/" ++ "tmp"]).text = "//tmp" ∧
      (((Session.mk .root .root).move []).resolve "tmp").text = "/tmp" ∧
      (Session.mk .root .root).destination ["~/" ++ "tmp"] ≠
        ((Session.mk .root .root).move []).resolve "tmp" := by
  decide +kernel

end Session

end LineShell
