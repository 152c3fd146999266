import LineShell.Files.Walk

/-!
# Walks as rules

`Files.walk` counts the links that may still be followed and hands the rest of a path on to the walk
with one link less. Here a walk is said by rules, one for each kind of step, so that a path can be
cut in two and each part be followed on its own.

* `Files.Leads`: steps that lead from one place to another, with the links left before and after;
* `Files.leads_of_walk` and `Files.walk_of_leads`: a walk that finds a place has been led there, and
  a walk that begins with steps that lead somewhere goes on from there;
* `Step.Skips`: steps that stay where they are, and the slash at the end, may be left out on the
  way (`Files.Leads.skip`).
-/

namespace LineShell

/-! ## 1. The rules -/

/-- Where a step leads that enters nothing. -/
def Step.next? (here : Place) : Step → Option Place
  | .stay => some here
  | .up => some here.parent
  | .enter _ => none
  | .slash => some here

namespace Files

variable {files : Files}

/-- The entry `n` of the directory at a place: the place still has its directory, the name is not
    too long, and there is something by that name. -/
structure HasEntry (files : Files) (here : Place) (n : Name) (node : Node) : Prop where
  directory : files.isDirectoryAt here = true
  kept : here.lost = 0
  short : n.text.utf8ByteSize ≤ longestName
  node : files.get? (n :: here.base) = some node

/-- Where a link is followed from. -/
def linkStart (here : Place) (target : String) : Place :=
  if isRooted target.toList then .root else here

/-- The steps lead from one place to another; the numbers are the links that may be followed before
    and after. -/
inductive Leads (files : Files) : Nat → Place → List Step → Nat → Place → Prop where
  | done (links : Nat) (here : Place) : Leads files links here [] links here
  | move {links links' : Nat} {here next there : Place} {step : Step} {rest : List Step}
      (hd : files.isDirectoryAt here = true) (hnext : step.next? here = some next)
      (h : Leads files links next rest links' there) :
      Leads files links here (step :: rest) links' there
  | enter {links links' : Nat} {here there : Place} {n : Name} {node : Node} {rest : List Step}
      (hentry : files.HasEntry here n node) (hnode : ∀ target, node ≠ .link target)
      (h : Leads files links ⟨n :: here.base, 0⟩ rest links' there) :
      Leads files links here (.enter n :: rest) links' there
  | follow {links links' : Nat} {here there : Place} {n : Name} {target : String}
      {rest : List Step} (hentry : files.HasEntry here n (.link target))
      (h : Leads files links (linkStart here target) (Step.ofPath target.toList ++ rest) links'
        there) :
      Leads files (links + 1) here (.enter n :: rest) links' there

/-! ## 2. A walk goes by the rules -/

/-- How a walk with so many links left follows one. -/
def follower (files : Files) : Nat → Place → List Step → Except Errno Spot
  | 0 => fun _ _ => .error .tooManyLinks
  | links + 1 => files.walk false links

theorem walk_eq_advance (files : Files) (links : Nat) :
    files.walk false links = files.advance false (files.follower links) := by
  cases links <;> rfl

variable {creating : Bool} {follow : Place → List Step → Except Errno Spot} {here : Place}
  {n : Name} {rest : List Step}

/-- What a step comes to that enters nothing. -/
theorem advance_move {next : Place} {step : Step} (hd : files.isDirectoryAt here = true)
    (hnext : step.next? here = some next) (rest : List Step) :
    files.advance creating follow here (step :: rest) =
      files.advance creating follow next rest := by
  cases step with
  | enter n => cases hnext
  | _ =>
    cases hnext
    rw [advance, hd]
    rfl

/-- Nothing but the name itself decides about a step into it: there is a directory to look into, the
    name is not too long, and it is not one to be created with a slash behind it. -/
structure MayEnter (files : Files) (creating : Bool) (here : Place) (n : Name) (rest : List Step) :
    Prop where
  directory : files.isDirectoryAt here = true
  unslashed : (creating && rest == [.slash]) = false
  kept : here.lost = 0
  short : n.text.utf8ByteSize ≤ longestName

/-- What a step into a name comes to, by what stands there. -/
theorem advance_of_mayEnter (h : files.MayEnter creating here n rest) :
    files.advance creating follow here (.enter n :: rest) =
      match files.get? (n :: here.base) with
      | some (.link target) => follow (linkStart here target) (Step.ofPath target.toList ++ rest)
      | some _ => files.advance creating follow ⟨n :: here.base, 0⟩ rest
      | none =>
        if creating && rest.isEmpty then .ok (.absent here.base n) else .error .noEntry := by
  obtain ⟨hd, hunslashed, hkept, hshort⟩ := h
  have hshort : ¬ longestName < n.text.utf8ByteSize := Nat.not_lt.mpr hshort
  conv => lhs; unfold advance
  simp only [hd, hunslashed, hkept, hshort]
  rfl

/-- A walk that gets past a step into a name was free to take it. -/
theorem mayEnter_of_advance {spot : Spot}
    (h : files.advance creating follow here (.enter n :: rest) = .ok spot) :
    files.MayEnter creating here n rest := by
  unfold advance at h
  dsimp only at h
  split at h
  · cases h
  · next hd =>
    split at h
    · cases h
    · next hunslashed =>
      split at h
      · cases h
      · next hkept =>
        split at h
        · cases h
        · next hshort =>
          exact ⟨by simpa using hd, Bool.eq_false_iff.mpr hunslashed, Decidable.not_not.mp hkept,
            Nat.not_lt.mp hshort⟩

/-- What a step into an entry comes to, when nothing is to be created. -/
theorem advance_enter {node : Node} (h : files.HasEntry here n node) (rest : List Step) :
    files.advance false follow here (.enter n :: rest) =
      match node with
      | .link target => follow (linkStart here target) (Step.ofPath target.toList ++ rest)
      | _ => files.advance false follow ⟨n :: here.base, 0⟩ rest := by
  rw [advance_of_mayEnter ⟨h.directory, rfl, h.kept, h.short⟩, h.node]
  cases node <;> rfl

/-- **A walk that begins with steps that lead somewhere goes on from there**, with the links that
    are left. -/
theorem walk_of_leads {links links' : Nat} {here there : Place} {steps : List Step}
    (h : files.Leads links here steps links' there) (rest : List Step) :
    files.walk false links here (steps ++ rest) = files.walk false links' there rest := by
  induction h with
  | done links here => rfl
  | move hd hnext h ih =>
    rw [walk_eq_advance] at ih ⊢
    rw [List.cons_append, advance_move hd hnext, ih]
  | @enter links links' here there n node steps hentry hnode h ih =>
    rw [walk_eq_advance] at ih ⊢
    rw [List.cons_append, advance_enter hentry, ← ih]
    cases node with
    | link target => exact absurd rfl (hnode target)
    | _ => rfl
  | follow hentry h ih =>
    rw [walk_eq_advance, List.cons_append, advance_enter hentry, ← ih, List.append_assoc]
    rfl

/-- A walk that takes a step into an entry has one to take. -/
theorem hasEntry_of_advance {p : Place}
    (h : files.advance false follow here (.enter n :: rest) = .ok (.found p)) :
    ∃ node, files.HasEntry here n node := by
  have hmay := mayEnter_of_advance h
  rw [advance_of_mayEnter hmay] at h
  cases hnode : files.get? (n :: here.base) with
  | none =>
    rw [hnode] at h
    cases h
  | some node => exact ⟨node, hmay.directory, hmay.kept, hmay.short, hnode⟩

theorem isDirectoryAt_of_advance {spot : Spot} {step : Step}
    (h : files.advance creating follow here (step :: rest) = .ok spot) :
    files.isDirectoryAt here = true := by
  unfold advance at h
  cases hd : files.isDirectoryAt here with
  | true => rfl
  | false =>
    rw [hd] at h
    cases h

/-- What a walk finds without a further link, or with what it finds by following one. -/
theorem leads_of_advance {links : Nat} {here there : Place} {steps : List Step}
    (hfollow : ∀ start rest, files.follower links start rest = .ok (.found there) →
      ∃ less links', links = less + 1 ∧ files.Leads less start rest links' there)
    (h : files.advance false (files.follower links) here steps = .ok (.found there)) :
    ∃ links', files.Leads links here steps links' there := by
  induction steps generalizing here with
  | nil =>
    cases h
    exact ⟨links, .done links _⟩
  | cons step rest ih =>
    have hd := isDirectoryAt_of_advance h
    have hmove : ∀ next, step.next? here = some next →
        ∃ links', files.Leads links here (step :: rest) links' there := by
      intro next hnext
      rw [advance_move hd hnext] at h
      obtain ⟨links', hrest⟩ := ih h
      exact ⟨links', .move hd hnext hrest⟩
    cases step with
    | stay => exact hmove _ rfl
    | slash => exact hmove _ rfl
    | up => exact hmove _ rfl
    | enter n =>
      obtain ⟨node, hentry⟩ := hasEntry_of_advance h
      rw [advance_enter hentry] at h
      have henter : (∀ target, node ≠ .link target) →
          files.advance false (files.follower links) ⟨n :: here.base, 0⟩ rest =
              .ok (.found there) →
            ∃ links', files.Leads links here (.enter n :: rest) links' there := by
        intro hnode hrest
        obtain ⟨links', hrest⟩ := ih hrest
        exact ⟨links', .enter hentry hnode hrest⟩
      cases node with
      | link target =>
        obtain ⟨less, links', rfl, hrest⟩ := hfollow _ _ h
        exact ⟨links', .follow hentry hrest⟩
      | file f => exact henter nofun h
      | directory => exact henter nofun h
      | device d => exact henter nofun h

/-- **A walk that finds a place has been led there.** -/
theorem leads_of_walk {links : Nat} {here there : Place} {steps : List Step}
    (h : files.walk false links here steps = .ok (.found there)) :
    ∃ links', files.Leads links here steps links' there := by
  induction links generalizing here steps with
  | zero =>
    rw [walk_eq_advance] at h
    refine leads_of_advance (fun start rest hrest => ?_) h
    cases hrest
  | succ links ih =>
    rw [walk_eq_advance] at h
    refine leads_of_advance (fun start rest hrest => ?_) h
    obtain ⟨links', hleads⟩ := ih hrest
    exact ⟨links, links', rfl, hleads⟩

end Files

/-! ## 3. Steps that lead nowhere -/

/-- The second steps are the first ones without some that stay where they are, and without some
    slashes. -/
inductive Step.Skips : List Step → List Step → Prop where
  | nil : Skips [] []
  | keep (s : Step) {as bs : List Step} (h : Skips as bs) : Skips (s :: as) (s :: bs)
  | stay {as bs : List Step} (h : Skips as bs) : Skips (.stay :: as) bs
  | slash {as bs : List Step} (h : Skips as bs) : Skips (.slash :: as) bs

namespace Step.Skips

theorem refl : ∀ as : List Step, Skips as as
  | [] => .nil
  | s :: as => .keep s (refl as)

theorem append {as bs cs ds : List Step} (h : Skips as bs) (k : Skips cs ds) :
    Skips (as ++ cs) (bs ++ ds) := by
  induction h with
  | nil => exact k
  | keep s h ih => exact .keep s ih
  | stay h ih => exact .stay ih
  | slash h ih => exact .slash ih

end Step.Skips

/-- **Steps that stay where they are may be left out**: what remains leads to the same place. -/
theorem Files.Leads.skip {files : Files} {links links' : Nat} {here there : Place}
    {steps steps' : List Step} (h : files.Leads links here steps links' there)
    (hskips : Step.Skips steps steps') : files.Leads links here steps' links' there := by
  induction h generalizing steps' with
  | done links here =>
    cases hskips
    exact .done links here
  | move hd hnext h ih =>
    cases hskips with
    | keep _ hrest => exact .move hd hnext (ih hrest)
    | stay hrest =>
      cases hnext
      exact ih hrest
    | slash hrest =>
      cases hnext
      exact ih hrest
  | enter hentry hnode h ih =>
    cases hskips with
    | keep _ hrest => exact .enter hentry hnode (ih hrest)
  | follow hentry h ih =>
    cases hskips with
    | keep _ hrest => exact .follow hentry (ih ((Step.Skips.refl _).append hrest))

end LineShell
