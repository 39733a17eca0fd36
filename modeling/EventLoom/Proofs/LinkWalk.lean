import EventLoom.Registry.Walk

/-!
# What is left of a path when its links are followed

A path is canonical if nothing in it has to be looked up: all its names lead downwards, and none of
them is the name of a link. Resolving a path ends with a canonical one unless a loop is met
(`resolveFrom_spec`). It starts from a canonical path, the top, and every name that is put behind
one has been found not to be a link; what a link leads to has been resolved the same way before it
is kept. Opening a file under a canonical path opens just that file (`find_of_canonical`).

Resolving cannot run out of links that may be followed at the same time. A link that is being
followed is kept as one that has been met, so that each of them is another one, and those that have
not been met yet (`unmet`) become fewer with each. As long as more can be followed than have not
been met, nothing but the targets of links matters (`resolveFrom_congr`).

## Results

* `resolveFrom_spec` — one walk: links that have been met stay so, and what is found is canonical.
* `find_of_canonical` — opening a file under a canonical path follows no link.
* `resolveFrom_congr` — the outcome is decided by where the links lead.
-/

namespace EventLoom.Registry.Tree

variable {t u : Tree} {p q : Path}

-- ---------------------------------------------------------------------------
-- Canonical paths
-- ---------------------------------------------------------------------------

/-- A name that leads downwards. -/
def IsName (name : Text) : Prop := name ≠ [] ∧ name ≠ Path.here ∧ name ≠ Path.above

theorem isName_of_not {name : Text} (hHere : ¬ (name = [] ∨ name = Path.here))
    (hAbove : ¬ name = Path.above) : IsName name :=
  ⟨fun hNil => hHere (.inl hNil), fun hDot => hHere (.inr hDot), hAbove⟩

/-- A path that leads downwards only, and through no link. -/
structure Canonical (t : Tree) (p : Path) : Prop where
  isName : ∀ name ∈ p, IsName name
  target?_eq : ∀ q, q <+: p → t.target? q = none

theorem canonical_nil : t.Canonical [] := by
  refine ⟨fun _ hName => absurd hName List.not_mem_nil, ?_⟩
  intro q hPrefix
  rw [List.prefix_nil.mp hPrefix]
  rfl

theorem Canonical.of_prefix (h : t.Canonical p) (hPrefix : q <+: p) : t.Canonical q :=
  ⟨fun name hName => h.isName name (hPrefix.subset hName),
    fun earlier hEarlier => h.target?_eq earlier (hEarlier.trans hPrefix)⟩

theorem Canonical.concat (h : t.Canonical p) {name : Text} (hName : IsName name)
    (hTarget : t.target? (p ++ [name]) = none) : t.Canonical (p ++ [name]) := by
  constructor
  · intro other hOther
    rcases List.mem_append.mp hOther with hOther | hOther
    · exact h.isName other hOther
    · rw [List.mem_singleton.mp hOther]
      exact hName
  · intro q hPrefix
    rcases List.prefix_concat_iff.mp hPrefix with rfl | hPrefix
    · exact hTarget
    · exact h.target?_eq q hPrefix

theorem Canonical.linkStart (h : t.Canonical p) (target : Text) :
    t.Canonical (linkStart p target) := by
  rw [Registry.linkStart]
  split
  · exact canonical_nil
  · exact h

-- ---------------------------------------------------------------------------
-- One walk
-- ---------------------------------------------------------------------------

/-- The links that have been followed to their ends lead to canonical paths. -/
def Met.Canonical (t : Tree) (met : Met) : Prop :=
  ∀ link p, met.lookup link = some (some p) → t.Canonical p

/-- A link that has been met is kept. -/
def Met.Extends (met earlier : Met) : Prop :=
  ∀ link, met.lookup link = none → earlier.lookup link = none

theorem Met.lookup_cons (link other : Path) (end? : Option Path) (met : Met) :
    List.lookup other ((link, end?) :: met) =
      if other = link then some end? else met.lookup other := by
  rw [List.lookup_cons]
  split
  · rename_i hSame
    rw [if_pos (beq_iff_eq.mp hSame)]
  · rename_i hOther
    rw [if_neg (beq_eq_false_iff_ne.mp hOther)]

theorem Met.Extends.refl (met : Met) : met.Extends met := fun _ => id

theorem Met.Extends.trans {met met₁ met₂ : Met} (h₂ : met₂.Extends met₁) (h₁ : met₁.Extends met) :
    met₂.Extends met :=
  fun link hNone => h₁ link (h₂ link hNone)

theorem Met.extends_cons (link : Path) (end? : Option Path) (met : Met) :
    Met.Extends ((link, end?) :: met) met := by
  intro other hNone
  rw [Met.lookup_cons] at hNone
  split at hNone
  · cases hNone
  · exact hNone

theorem Met.Canonical.following {met : Met} (h : met.Canonical t) (link : Path) :
    Met.Canonical t ((link, none) :: met) := by
  intro other p hLookup
  rw [Met.lookup_cons] at hLookup
  split at hLookup
  · cases hLookup
  · exact h other p hLookup

theorem Met.Canonical.followed {met : Met} (h : met.Canonical t) (link : Path)
    (hEnd : t.Canonical q) : Met.Canonical t ((link, some q) :: met) := by
  intro other p hLookup
  rw [Met.lookup_cons] at hLookup
  split at hLookup
  · cases hLookup
    exact hEnd
  · exact h other p hLookup

/-- **What a walk finds.** It keeps the links that it has met, and what it resolves is canonical:
both what it ends with, unless it meets a loop, and what each of these links leads to. -/
theorem resolveFrom_spec {depth : Nat} {met met' : Met} {start names : Path} {r : Resolved}
    (h : t.resolveFrom depth met start names = .ok (r, met')) :
    met'.Extends met ∧ (t.Canonical start → met.Canonical t →
      met'.Canonical t ∧ ∀ p, r = .clean p → t.Canonical p) := by
  -- where a link is met for the first time, one walk leads to its end and one goes on from there
  fun_induction t.resolveFrom depth met start names generalizing r met' with
  | case1 depth met start =>
    cases h
    exact ⟨.refl met, fun hStart hMet => ⟨hMet, fun p hClean => by cases hClean; exact hStart⟩⟩
  | case2 depth met start name rest hHere ih => exact ih h
  | case3 depth met start rest hHere ih =>
    obtain ⟨hExtends, hRest⟩ := ih h
    exact ⟨hExtends, fun hStart => hRest (hStart.of_prefix (List.dropLast_prefix start))⟩
  | case4 => cases h
  | case5 met start name rest hHere hAbove hNul depth hTarget ih =>
    obtain ⟨hExtends, hRest⟩ := ih h
    have hName := isName_of_not hHere hAbove
    exact ⟨hExtends, fun hStart => hRest (hStart.concat hName hTarget)⟩
  | case6 met =>
    cases h
    exact ⟨.refl met, fun _ hMet => ⟨hMet, fun p hClean => by cases hClean⟩⟩
  | case7 met start name rest hHere hAbove hNul target depth hTarget p hMet' ih =>
    obtain ⟨hExtends, hRest⟩ := ih h
    exact ⟨hExtends, fun _ hMet => hRest (hMet _ p hMet') hMet⟩
  | case8 met =>
    cases h
    exact ⟨.refl met, fun _ hMet => ⟨hMet, fun p hClean => by cases hClean⟩⟩
  | case9 => cases h
  | case10 met start name rest hHere hAbove hNul target depth hTarget hNew p met₁ hLink ih =>
    cases h
    obtain ⟨hExtends, hFollowed⟩ := ih hLink
    refine ⟨hExtends.trans (Met.extends_cons _ _ met), ?_⟩
    intro hStart hMet
    obtain ⟨hMet₁, -⟩ := hFollowed (hStart.linkStart target) (hMet.following _)
    exact ⟨hMet₁, fun p hClean => by cases hClean⟩
  | case11 met start name rest hHere hAbove hNul target depth hTarget hNew p met₁ hLink ihLink ih =>
    obtain ⟨hExtends₁, hFollowed⟩ := ihLink hLink
    obtain ⟨hExtends, hRest⟩ := ih h
    have hFollowing := hExtends₁.trans (Met.extends_cons _ _ met)
    constructor
    · exact (hExtends.trans (Met.extends_cons _ _ met₁)).trans hFollowing
    · intro hStart hMet
      obtain ⟨hMet₁, hClean⟩ := hFollowed (hStart.linkStart target) (hMet.following _)
      exact hRest (hClean p rfl) (hMet₁.followed _ (hClean p rfl))

-- ---------------------------------------------------------------------------
-- Links that have not been met
-- ---------------------------------------------------------------------------

/-- The entry stands for a link that has not been met. -/
def isUnmet (met : Met) (entry : Path × Entry) : Bool :=
  match entry.2 with
  | .link _ => (met.lookup entry.1).isNone
  | _ => false

/-- How many links have not been met. -/
def unmet (t : Tree) (met : Met) : Nat := t.countP (isUnmet met)

theorem unmet_nil (t : Tree) : t.unmet [] = t.linkCount := by
  rw [unmet, linkCount]
  apply List.countP_congr
  intro entry _
  rw [isUnmet]
  cases entry.2 with
  | link target => exact Iff.rfl
  | _ => exact Iff.rfl

theorem isUnmet_of_extends {met met' : Met} (h : met'.Extends met) {entry : Path × Entry}
    (hUnmet : isUnmet met' entry = true) : isUnmet met entry = true := by
  rw [isUnmet] at hUnmet ⊢
  cases hEntry : entry.2 with
  | link target =>
    rw [hEntry] at hUnmet
    exact Option.isNone_iff_eq_none.mpr (h _ (Option.isNone_iff_eq_none.mp hUnmet))
  | _ =>
    rw [hEntry] at hUnmet
    cases hUnmet

theorem unmet_le_of_extends {met met' : Met} (h : met'.Extends met) : t.unmet met' ≤ t.unmet met :=
  List.countP_mono_left fun _ _ => isUnmet_of_extends h

theorem target?_eq_some_iff {target : Text} :
    t.target? p = some target ↔ t.entryAt p = some (.link target) := by
  rw [target?]
  split
  · rename_i hEntry
    rw [hEntry]
    simp
  · rename_i hEntry
    exact iff_of_false nofun (hEntry target)

theorem exists_split_of_target? {target : Text} (h : t.target? p = some target) :
    ∃ before behind, t = before ++ (p, .link target) :: behind := by
  rw [target?_eq_some_iff, entryAt] at h
  split at h
  · cases h
  · obtain ⟨before, behind, rfl, -⟩ := List.lookup_eq_some_iff.mp h
    exact ⟨before, behind, rfl⟩

/-- A link that is met for the first time makes them fewer. -/
theorem unmet_cons_lt {met : Met} {target : Text} (hTarget : t.target? p = some target)
    (hUnmet : met.lookup p = none) (end? : Option Path) :
    t.unmet ((p, end?) :: met) < t.unmet met := by
  obtain ⟨before, behind, rfl⟩ := exists_split_of_target? hTarget
  have hExtends := Met.extends_cons p end? met
  have hBefore := unmet_le_of_extends (t := before) hExtends
  have hBehind := unmet_le_of_extends (t := behind) hExtends
  have hThen : isUnmet met (p, .link target) = true := by
    rw [isUnmet, hUnmet]
    rfl
  have hNow : ¬ isUnmet ((p, end?) :: met) (p, .link target) = true := by
    rw [isUnmet, Met.lookup_cons, if_pos rfl]
    exact nofun
  unfold unmet at *
  rw [List.countP_append, List.countP_append, List.countP_cons_of_pos hThen,
    List.countP_cons_of_neg hNow]
  omega

/-- So one more than can be followed besides it is enough to follow it. -/
theorem unmet_lt_of_following {met : Met} {target : Text} (hTarget : t.target? p = some target)
    (hUnmet : met.lookup p = none) {depth : Nat} (hDepth : t.unmet met < depth + 1) :
    t.unmet ((p, none) :: met) < depth := by
  have hFewer := unmet_cons_lt hTarget hUnmet none
  omega

/-- **Where the links lead decides where a path leads**, whatever the bound on how many are followed
at the same time, as long as it is above the number of those that have not been met. -/
theorem resolveFrom_congr (hTargets : ∀ p, t.target? p = u.target? p) {depth depth' : Nat}
    {met : Met} (hDepth : t.unmet met < depth) (hDepth' : u.unmet met < depth')
    (start names : Path) :
    t.resolveFrom depth met start names = u.resolveFrom depth' met start names := by
  fun_induction t.resolveFrom depth met start names generalizing depth' with
  | case1 => rw [resolveFrom_nil]
  | case2 depth met start name rest hHere ih =>
    rw [ih hDepth hDepth', resolveFrom.eq_def u depth' met start (name :: rest)]
    simp only [if_pos hHere]
  | case3 depth met start rest hHere ih =>
    rw [ih hDepth hDepth', resolveFrom.eq_def u depth' met start (Path.above :: rest)]
    simp only [if_neg hHere, if_true]
  | case4 depth met start name rest hHere hAbove hNul =>
    rw [resolveFrom.eq_def u]
    simp only [if_neg hHere, if_neg hAbove, if_pos hNul]
  | case5 met start name rest hHere hAbove hNul depth hTarget ih =>
    rw [hTargets] at hTarget
    rw [ih hDepth hDepth', resolveFrom.eq_def u depth' met start (name :: rest)]
    simp only [if_neg hHere, if_neg hAbove, if_neg hNul, hTarget]
  | case6 =>
    -- no link can be followed any more, but there are links that have not been met
    exact absurd hDepth (Nat.not_lt_zero _)
  | case7 met start name rest hHere hAbove hNul target depth hTarget p hMet ih =>
    rw [hTargets] at hTarget
    obtain ⟨depth', rfl⟩ := Nat.exists_eq_add_one.mpr (Nat.zero_lt_of_lt hDepth')
    rw [ih hDepth hDepth', resolveFrom.eq_def u (depth' + 1) met start (name :: rest)]
    simp only [if_neg hHere, if_neg hAbove, if_neg hNul, hTarget, hMet]
  | case8 met start name rest hHere hAbove hNul target depth hTarget hMet =>
    rw [hTargets] at hTarget
    obtain ⟨depth', rfl⟩ := Nat.exists_eq_add_one.mpr (Nat.zero_lt_of_lt hDepth')
    rw [resolveFrom.eq_def u]
    simp only [if_neg hHere, if_neg hAbove, if_neg hNul, hTarget, hMet]
  | case9 met start name rest hHere hAbove hNul target depth hTarget hMet fault hLink ih =>
    have hFewer := unmet_lt_of_following hTarget hMet hDepth
    rw [hTargets] at hTarget
    obtain ⟨depth', rfl⟩ := Nat.exists_eq_add_one.mpr (Nat.zero_lt_of_lt hDepth')
    have hFewer' := unmet_lt_of_following hTarget hMet hDepth'
    rw [ih hFewer hFewer'] at hLink
    rw [resolveFrom.eq_def u]
    simp only [if_neg hHere, if_neg hAbove, if_neg hNul, hTarget, hMet, hLink]
  | case10 met start name rest hHere hAbove hNul target depth hTarget hMet p met₁ hLink ih =>
    have hFewer := unmet_lt_of_following hTarget hMet hDepth
    rw [hTargets] at hTarget
    obtain ⟨depth', rfl⟩ := Nat.exists_eq_add_one.mpr (Nat.zero_lt_of_lt hDepth')
    have hFewer' := unmet_lt_of_following hTarget hMet hDepth'
    rw [ih hFewer hFewer'] at hLink
    rw [resolveFrom.eq_def u]
    simp only [if_neg hHere, if_neg hAbove, if_neg hNul, hTarget, hMet, hLink]
  | case11 met start name rest hHere hAbove hNul target depth hTarget hMet p met₁ hLink ihLink ih =>
    -- the links that were met on the way are still known behind the link
    have hExtends := (Met.extends_cons (start ++ [name]) (some p) met₁).trans
      (resolveFrom_spec hLink).1
    have hFewer := unmet_lt_of_following hTarget hMet hDepth
    rw [hTargets] at hTarget
    obtain ⟨depth', rfl⟩ := Nat.exists_eq_add_one.mpr (Nat.zero_lt_of_lt hDepth')
    have hFewer' := unmet_lt_of_following hTarget hMet hDepth'
    rw [ihLink hFewer hFewer'] at hLink
    have hRest : t.unmet ((start ++ [name], some p) :: met₁) < depth + 1 :=
      Nat.lt_succ_of_lt (Nat.lt_of_le_of_lt (unmet_le_of_extends hExtends) hFewer)
    have hRest' : u.unmet ((start ++ [name], some p) :: met₁) < depth' + 1 :=
      Nat.lt_succ_of_lt (Nat.lt_of_le_of_lt (unmet_le_of_extends hExtends) hFewer')
    rw [ih hRest hRest', resolveFrom.eq_def u (depth' + 1) met start (name :: rest)]
    simp only [if_neg hHere, if_neg hAbove, if_neg hNul, hTarget, hMet, hLink]

-- ---------------------------------------------------------------------------
-- Opening a file
-- ---------------------------------------------------------------------------

theorem target?_ne_none_of_entryAt {target : Text} (h : t.entryAt p = some (.link target)) :
    t.target? p ≠ none := by
  rw [target?_eq_some_iff.mpr h]
  exact nofun

theorem Canonical.head {dir rest : Path} {name : Text} (h : t.Canonical (dir ++ name :: rest)) :
    IsName name ∧ t.target? (dir ++ [name]) = none := by
  refine ⟨h.isName name (List.mem_append_right _ List.mem_cons_self), ?_⟩
  rw [List.append_cons] at h
  exact h.target?_eq _ (List.prefix_append _ _)

/-- There is one way only along a canonical path, and it leads to its end. -/
theorem locateFrom_of_canonical {links : Nat} {dir names place : Path}
    (hCanonical : t.Canonical (dir ++ names)) (h : t.locateFrom links dir names = .ok place) :
    place = dir ++ names := by
  fun_induction t.locateFrom links dir names with
  | case1 links dir =>
    cases h
    exact (List.append_nil _).symm
  | case2 => cases h
  | case3 links dir name rest hDirectory hHere ih =>
    obtain ⟨⟨hNil, hDot, -⟩, -⟩ := hCanonical.head
    exact absurd hHere (not_or_intro hNil hDot)
  | case4 links dir rest hDirectory hHere ih =>
    exact absurd rfl hCanonical.head.1.2.2
  | case5 => cases h
  | case6 links dir name hDirectory hHere hAbove hLong hAbsent =>
    cases h
    rfl
  | case7 => cases h
  | case8 => cases h
  | case9 => cases h
  | case10 dir name rest hDirectory hHere hAbove hLong target links hLink ih =>
    exact absurd hCanonical.head.2 (target?_ne_none_of_entryAt hLink)
  | case11 dir name rest hDirectory hHere hAbove hLong entry links _ _ hEntry ih =>
    rw [List.append_cons] at hCanonical ⊢
    exact ih hCanonical h

/-- **Opening a file under a canonical path opens just that file.** -/
theorem find_of_canonical (hCanonical : t.Canonical p) {place : Path}
    (h : t.find p = .ok place) : place = p := by
  rw [find] at h
  split at h
  · cases h
  · cases h
  · rename_i found hFound
    split at h
    · cases h
      rw [locate] at hFound
      split at hFound
      · cases hFound
      · exact locateFrom_of_canonical hCanonical hFound
    · cases h

end EventLoom.Registry.Tree
