import EventLoom.Proofs.ActivationOutcome
import EventLoom.Proofs.Containment

/-!
# What comes of resources that cannot be read

A resource is asked for by its path, and whoever asks can do with a text or with a problem that
names the path. Most of what can go wrong is such a problem: the path leads out of the root, or the
system does not open what it leads to (`Unread`). Three things are not, and escape (`Escapes`). The
links on the way may lead back to themselves, a name on the way may hold the character that no name
can hold, and the bytes of the file may be no text.

The first two can only happen if there is such a loop, or if the path or the target of some link
holds that character. A walk along names without it ends with such names, wherever its links lead
(`nulFree_of_resolveFrom`), and does not fail (`resolveFrom_eq_error`).

An activation turns a mapping down for a problem with its resource, and reports it. What escapes
from the registry escapes from the activation, too, and nothing is logged.

This is said of all paths and trees that are described at all (`Registry.Tree`, `Registry.Walk`). A
chain of links that there is no room to follow, and half of a surrogate pair in a path, fail in
ways of their own.

## Results

* `nulFree_of_resolveFrom`, `resolveFrom_eq_error` — one walk along names that the system can have.
* `read_eq_error_iff` — all faults of a registry of files.
* `read_reports_or_escapes` — what anybody gets who asks for a resource, and what activations make
  of it.
-/

namespace EventLoom

namespace Text

/-- What is cut out of a text has been in it. -/
theorem subset_of_mem_cut {separator : Char} {part t : Text} (h : part ∈ cut separator t) :
    part ⊆ t := by
  have hJoin : part ⊆ join [separator] (cut separator t) := subset_join h
  rw [join_cut] at hJoin
  exact hJoin

end Text

namespace Registry

open Text

-- ---------------------------------------------------------------------------
-- Names that the system can have
-- ---------------------------------------------------------------------------

/-- No name holds the character that ends all names. -/
def Path.NulFree (p : Path) : Prop := ∀ name ∈ p, '\x00' ∉ name

namespace Path

variable {p q : Path}

theorem nulFree_nil : NulFree [] := fun _ hName => absurd hName List.not_mem_nil

theorem NulFree.concat (h : NulFree p) {name : Text} (hName : '\x00' ∉ name) :
    NulFree (p ++ [name]) :=
  List.forall_mem_append.mpr ⟨h, List.forall_mem_singleton.mpr hName⟩

theorem NulFree.dropLast (h : NulFree p) : NulFree p.dropLast :=
  fun name hName => h name (List.dropLast_subset p hName)

theorem NulFree.tail {name : Text} (h : NulFree (name :: p)) : NulFree p :=
  (List.forall_mem_cons.mp h).2

theorem NulFree.append (h : NulFree p) (hRest : NulFree q) : NulFree (append p q) := by
  unfold Path.append
  split
  · exact hRest
  · exact List.forall_mem_append.mpr ⟨h, hRest⟩

theorem nulFree_ofText {t : Text} (h : '\x00' ∉ t) : NulFree (ofText t) :=
  fun _ hName hNul => h (subset_of_mem_cut hName hNul)

theorem nulFree_namesOf {t : Text} (h : '\x00' ∉ t) : NulFree (namesOf t) :=
  fun name hName => nulFree_ofText h name (List.mem_filter.mp hName).1

theorem NulFree.normalize (h : NulFree p) : NulFree (normalize p) := by
  have hFold : ∀ done : Path, NulFree done → NulFree (p.foldl (fun done name =>
      if name = [] ∨ name = here then done
      else if name = above then done.dropLast
      else done ++ [name]) done) := by
    induction p with
    | nil => exact fun _ hDone => hDone
    | cons name rest ih =>
      intro done hDone
      apply ih h.tail
      show NulFree (if _ then _ else if _ then _ else _)
      split
      · exact hDone
      · split
        · exact hDone.dropLast
        · exact hDone.concat (h name List.mem_cons_self)
  exact hFold [] nulFree_nil

end Path

namespace Tree

variable {t : Tree} {names : Path}

/-- No link leads along a name that the system cannot have. -/
def NulFree (t : Tree) : Prop := ∀ link target, t.target? link = some target → '\x00' ∉ target

/-- Nor do the links that have been followed to their ends. -/
def Met.NulFree (met : Met) : Prop := ∀ link p, met.lookup link = some (some p) → p.NulFree

theorem Met.nulFree_nil : Met.NulFree [] := by
  intro link p hLookup
  cases hLookup

theorem Met.NulFree.following {met : Met} (h : met.NulFree) (link : Path) :
    Met.NulFree ((link, none) :: met) := by
  intro other p hLookup
  rw [Met.lookup_cons] at hLookup
  split at hLookup
  · cases hLookup
  · exact h other p hLookup

theorem Met.NulFree.followed {met : Met} (h : met.NulFree) (link : Path) {p : Path}
    (hEnd : p.NulFree) : Met.NulFree ((link, some p) :: met) := by
  intro other q hLookup
  rw [Met.lookup_cons] at hLookup
  split at hLookup
  · cases hLookup
    exact hEnd
  · exact h other q hLookup

theorem nulFree_linkStart {dir : Path} (h : dir.NulFree) (target : Text) :
    (linkStart dir target).NulFree := by
  rw [linkStart]
  split
  · exact Path.nulFree_nil
  · exact h

/-- All names are such that the system can have them: those of the path and those of the links. -/
def AllNulFree (t : Tree) (names : Path) : Prop := t.NulFree ∧ names.NulFree

theorem AllNulFree.tail {name : Text} (h : t.AllNulFree (name :: names)) : t.AllNulFree names :=
  ⟨h.1, h.2.tail⟩

theorem AllNulFree.target {link : Path} {target : Text} (h : t.AllNulFree names)
    (hTarget : t.target? link = some target) : t.AllNulFree (Path.ofText target) :=
  ⟨h.1, Path.nulFree_ofText (h.1 link target hTarget)⟩

/-- **Where a walk ends**: with names that the system can have, as long as it has looked at them.
Behind a loop the names are those of the path or of a link. -/
theorem nulFree_of_resolveFrom {depth : Nat} {met met' : Met} {start : Path} {r : Resolved}
    (h : t.resolveFrom depth met start names = .ok (r, met')) (hStart : start.NulFree)
    (hMet : met.NulFree) :
    met'.NulFree ∧ (∀ p, r = .clean p → p.NulFree)
      ∧ (t.AllNulFree names → ∀ p, r = .looped p → p.NulFree) := by
  fun_induction t.resolveFrom depth met start names generalizing r met' with
  | case1 depth met start =>
    cases h
    refine ⟨hMet, ?_, fun _ p hLooped => by cases hLooped⟩
    rintro _ ⟨⟩
    exact hStart
  | case2 depth met start name rest hHere ih =>
    obtain ⟨hMet', hClean, hLooped⟩ := ih h hStart hMet
    exact ⟨hMet', hClean, fun hAll => hLooped hAll.tail⟩
  | case3 depth met start rest hHere ih =>
    obtain ⟨hMet', hClean, hLooped⟩ := ih h hStart.dropLast hMet
    exact ⟨hMet', hClean, fun hAll => hLooped hAll.tail⟩
  | case4 => cases h
  | case5 met start name rest hHere hAbove hNul depth hTarget ih =>
    obtain ⟨hMet', hClean, hLooped⟩ := ih h (hStart.concat hNul) hMet
    exact ⟨hMet', hClean, fun hAll => hLooped hAll.tail⟩
  | case6 met start name rest hHere hAbove hNul target hTarget =>
    cases h
    refine ⟨hMet, (fun p hClean => by cases hClean), ?_⟩
    rintro hAll _ ⟨⟩
    exact (hStart.concat hNul).append hAll.tail.2
  | case7 met start name rest hHere hAbove hNul target depth hTarget p hMet' ih =>
    obtain ⟨hMet', hClean, hLooped⟩ := ih h (hMet _ p hMet') hMet
    exact ⟨hMet', hClean, fun hAll => hLooped hAll.tail⟩
  | case8 met start name rest hHere hAbove hNul target depth hTarget hMet' =>
    cases h
    refine ⟨hMet, (fun p hClean => by cases hClean), ?_⟩
    rintro hAll _ ⟨⟩
    exact (hStart.concat hNul).append hAll.tail.2
  | case9 => cases h
  | case10 met start name rest hHere hAbove hNul target depth hTarget hNew p met₁ hLink ih =>
    cases h
    obtain ⟨hMet', -, hLooped⟩ := ih hLink (nulFree_linkStart hStart target) (hMet.following _)
    refine ⟨hMet', (fun p hClean => by cases hClean), ?_⟩
    rintro hAll _ ⟨⟩
    exact (hLooped (hAll.target hTarget) p rfl).append hAll.tail.2
  | case11 met start name rest hHere hAbove hNul target depth hTarget hNew p met₁ hLink ihLink ih =>
    obtain ⟨hMet₁, hEnd, -⟩ := ihLink hLink (nulFree_linkStart hStart target) (hMet.following _)
    obtain ⟨hMet', hClean, hLooped⟩ := ih h (hEnd p rfl) (hMet₁.followed _ (hEnd p rfl))
    exact ⟨hMet', hClean, fun hAll => hLooped hAll.tail⟩

/-- **A walk fails only at a name that the system cannot have.** -/
theorem resolveFrom_eq_error {depth : Nat} {met : Met} {start : Path} {fault : Fault}
    (h : t.resolveFrom depth met start names = .error fault) :
    fault = .embeddedNul ∧ ¬ t.AllNulFree names := by
  fun_induction t.resolveFrom depth met start names generalizing fault with
  | case1 => cases h
  | case2 depth met start name rest hHere ih =>
    obtain ⟨hFault, hRest⟩ := ih h
    exact ⟨hFault, fun hAll => hRest hAll.tail⟩
  | case3 depth met start rest hHere ih =>
    obtain ⟨hFault, hRest⟩ := ih h
    exact ⟨hFault, fun hAll => hRest hAll.tail⟩
  | case4 depth met start name rest hHere hAbove hNul =>
    cases h
    exact ⟨rfl, fun hAll => hAll.2 name List.mem_cons_self hNul⟩
  | case5 met start name rest hHere hAbove hNul depth hTarget ih =>
    obtain ⟨hFault, hRest⟩ := ih h
    exact ⟨hFault, fun hAll => hRest hAll.tail⟩
  | case6 => cases h
  | case7 met start name rest hHere hAbove hNul target depth hTarget p hMet ih =>
    obtain ⟨hFault, hRest⟩ := ih h
    exact ⟨hFault, fun hAll => hRest hAll.tail⟩
  | case8 => cases h
  | case9 met start name rest hHere hAbove hNul target depth hTarget hNew fault' hLink ih =>
    cases h
    obtain ⟨hFault, hEnd⟩ := ih hLink
    exact ⟨hFault, fun hAll => hEnd (hAll.target hTarget)⟩
  | case10 => cases h
  | case11 met start name rest hHere hAbove hNul target depth hTarget hNew p met₁ hLink _ ih =>
    obtain ⟨hFault, hRest⟩ := ih h
    exact ⟨hFault, fun hAll => hRest hAll.tail⟩

theorem nulFree_of_resolve {p : Path} (h : t.resolve names = .ok p) : p.NulFree := by
  obtain ⟨⟨r, met⟩, hWalk, hEnd⟩ := bind_eq_ok_iff.mp h
  obtain ⟨-, hClean, -⟩ := nulFree_of_resolveFrom hWalk Path.nulFree_nil Met.nulFree_nil
  cases r with
  | clean q =>
    cases hEnd
    exact hClean p rfl
  | looped q =>
    simp only at hEnd
    split at hEnd
    · cases hEnd
    · rename_i hNames
      split at hEnd
      · cases hEnd
      · cases hEnd
        intro name hName hNul
        exact hNames (List.any_eq_true.mpr ⟨name, hName, decide_eq_true hNul⟩)

/-- A path that cannot be resolved leads through a name that the system cannot have, or to a
loop. -/
theorem resolve_eq_error {fault : Fault} (h : t.resolve names = .error fault) :
    (fault = .embeddedNul ∧ ¬ t.AllNulFree names)
      ∨ ∃ place, fault = .linkLoop (Path.text place) ∧ t.MeetsLoop names := by
  rcases bind_eq_error_iff.mp h with hWalk | ⟨⟨r, met⟩, hWalk, hEnd⟩
  · exact .inl (resolveFrom_eq_error hWalk)
  · cases r with
    | clean q => cases hEnd
    | looped q =>
      simp only at hEnd
      split at hEnd
      · rename_i hNames
        cases hEnd
        refine .inl ⟨rfl, ?_⟩
        intro hAll
        obtain ⟨-, -, hLooped⟩ := nulFree_of_resolveFrom hWalk Path.nulFree_nil Met.nulFree_nil
        obtain ⟨name, hName, hNul⟩ := List.any_eq_true.mp hNames
        exact (hLooped hAll q rfl).normalize name hName (of_decide_eq_true hNul)
      · split at hEnd
        · cases hEnd
          exact .inr ⟨_, rfl, q, met, hWalk⟩
        · cases hEnd

end Tree

-- ---------------------------------------------------------------------------
-- Reading
-- ---------------------------------------------------------------------------

namespace Files

variable {f : Files} {path : Text} {fault : Fault}

/-- The problems with a resource: its path leads out of the root, or to nothing that the system
opens. -/
inductive Unread (f : Files) (path : Text) : Fault → Prop where
  | outside {place : Path} (hPlace : f.place path = .ok place) (hOutside : ¬ f.root <+: place) :
      Unread f path (.outsideRoot path (Path.text f.root))
  | unreadable {place : Path} {failure : SystemFailure} (hPlace : f.place path = .ok place)
      (hBeneath : f.root <+: place) (hRead : f.tree.read place = .error failure) :
      Unread f path (.unreadable path failure)

/-- A name on the way may be one that the system cannot have. -/
def MayMeetNul (f : Files) (path : Text) : Prop :=
  '\x00' ∈ path ∨ ∃ link target, f.tree.target? link = some target ∧ '\x00' ∈ target

/-- What can go wrong with a resource and is no problem that names it. -/
inductive Escapes (f : Files) (path : Text) : Fault → Prop where
  /-- The links on the way lead back to themselves. -/
  | linkLoop {place : Path} (hLoop : f.tree.MeetsLoop (f.root ++ Path.namesOf path))
      (hPlace : f.place path = .error (.linkLoop (Path.text place))) :
      Escapes f path (.linkLoop (Path.text place))
  | embeddedNul (hNul : f.MayMeetNul path) (hPlace : f.place path = .error .embeddedNul) :
      Escapes f path .embeddedNul
  /-- The bytes of the file are no text. -/
  | undecodable {place : Path} {bytes : List UInt8} (hPlace : f.place path = .ok place)
      (hBeneath : f.root <+: place) (hRead : f.tree.read place = .ok bytes)
      (hBytes : decode? bytes = none) : Escapes f path .undecodable

theorem mayMeetNul_of_not (hRoot : f.root.NulFree)
    (h : ¬ f.tree.AllNulFree (f.root ++ Path.namesOf path)) : f.MayMeetNul path := by
  by_cases hMay : f.MayMeetNul path
  · exact hMay
  · obtain ⟨hPath, hLinks⟩ := not_or.mp hMay
    refine absurd ⟨?_, List.forall_mem_append.mpr ⟨hRoot, Path.nulFree_namesOf hPath⟩⟩ h
    intro link target hTarget hNul
    exact hLinks ⟨link, target, hTarget, hNul⟩

theorem textOf_eq_error_iff {bytes : List UInt8} :
    textOf bytes = .error fault ↔ fault = .undecodable ∧ decode? bytes = none := by
  rw [textOf]
  split
  · rename_i t hText
    simp [hText]
  · rename_i hNone
    simp [hNone, eq_comm]

/-- A place beneath the root is read. -/
theorem read_beneath {place : Path} (hPlace : f.place path = .ok place)
    (hBeneath : f.root <+: place) :
    f.read path = match f.tree.read place with
      | .error failure => .error (.unreadable path failure)
      | .ok bytes => textOf bytes := by
  have hPrefix : f.root.isPrefixOf place = true := List.isPrefixOf_iff_prefix.mpr hBeneath
  rw [read, hPlace]
  exact if_neg (by simp [hPrefix])

/-- **All faults of a registry of files.** -/
theorem read_eq_error_iff (hRoot : f.root.NulFree) :
    f.read path = .error fault ↔ f.Unread path fault ∨ f.Escapes path fault := by
  constructor
  · intro h
    rcases hPlace : f.place path with reason | place
    · have hFault : f.read path = .error reason := bind_eq_error_iff.mpr (.inl hPlace)
      rw [hFault] at h
      cases h
      rcases Tree.resolve_eq_error hPlace with ⟨rfl, hNames⟩ | ⟨place, rfl, hLoop⟩
      · exact .inr (.embeddedNul (mayMeetNul_of_not hRoot hNames) hPlace)
      · exact .inr (.linkLoop hLoop hPlace)
    · by_cases hBeneath : f.root <+: place
      · rw [read_beneath hPlace hBeneath] at h
        split at h
        · rename_i failure hRead
          cases h
          exact .inl (.unreadable hPlace hBeneath hRead)
        · rename_i bytes hRead
          obtain ⟨rfl, hBytes⟩ := textOf_eq_error_iff.mp h
          exact .inr (.undecodable hPlace hBeneath hRead hBytes)
      · have hOutside : f.root.isPrefixOf place = false := by
          simpa [← List.isPrefixOf_iff_prefix] using hBeneath
        have hFault := outside_of_not_prefix hPlace hOutside
        rw [hFault] at h
        cases h
        exact .inl (.outside hPlace hBeneath)
  · rintro (hUnread | hEscapes)
    · cases hUnread with
      | outside hPlace hOutside =>
        apply outside_of_not_prefix hPlace
        simpa [← List.isPrefixOf_iff_prefix] using hOutside
      | unreadable hPlace hBeneath hRead => rw [read_beneath hPlace hBeneath, hRead]
    · cases hEscapes with
      | linkLoop _ hPlace => exact bind_eq_error_iff.mpr (.inl hPlace)
      | embeddedNul _ hPlace => exact bind_eq_error_iff.mpr (.inl hPlace)
      | undecodable hPlace hBeneath hRead hBytes =>
        rw [read_beneath hPlace hBeneath, hRead]
        exact textOf_eq_error_iff.mpr ⟨rfl, hBytes⟩

/-- The fault is a problem of configuration that names the resource. -/
def IsProblemWith (path : Text) (fault : Fault) : Prop :=
  ∃ message cause, fault.problem? = some ⟨.plain .configuration message
    [(.text "path".toList, .text path)], .null, cause⟩

theorem Unread.isProblemWith (h : f.Unread path fault) : IsProblemWith path fault := by
  cases h with
  | outside => exact ⟨_, _, rfl⟩
  | unreadable => exact ⟨_, _, rfl⟩

theorem Escapes.problem?_eq_none (h : f.Escapes path fault) : fault.problem? = none := by
  cases h <;> rfl

theorem IsProblemWith.isConfiguration (h : IsProblemWith path fault) :
    fault.isConfiguration = true := by
  obtain ⟨message, cause, hProblem⟩ := h
  rw [Fault.isConfiguration, hProblem]
  rfl

/-- Where there are no loops, no characters that names cannot hold and nothing but texts beneath the
root, nothing escapes. -/
theorem not_escapes (hLoop : ¬ f.tree.MeetsLoop (f.root ++ Path.namesOf path))
    (hNul : ¬ f.MayMeetNul path)
    (hTexts : ∀ place bytes, f.root <+: place → f.tree.entryAt place = some (.file bytes) →
      decode? bytes ≠ none) : ¬ f.Escapes path fault := by
  intro h
  cases h with
  | linkLoop hThere _ => exact hLoop hThere
  | embeddedNul hThere _ => exact hNul hThere
  | undecodable hPlace hBeneath hRead hBytes =>
    have hCanonical := Tree.canonical_of_resolve hPlace hLoop
    exact hTexts _ _ hBeneath (Tree.entryAt_of_read hCanonical hRead) hBytes

-- ---------------------------------------------------------------------------
-- Activating
-- ---------------------------------------------------------------------------

/-- A mapping whose text is a resource. -/
def mappingOf (path : Text) : OutputMapping :=
  ⟨.bool true, some (.registry (.text path)), .text OutputMapping.jsonType⟩

/-- Without its resource an activation does not come to its template. -/
theorem activate_of_read_eq_error {mapping : OutputMapping} (hCustom : mapping.isCustom = true)
    (hSource : mapping.source = some (.registry (.text path))) (h : f.read path = .error fault)
    (s : Stream) (policy : EmptyPolicy) :
    activate mapping s (some f.read) policy = .withoutText s.id fault := by
  have hText : templateText mapping s (some f.read) = .error fault := by
    rw [templateText, if_pos hCustom, OutputMapping.customText_registry hCustom hSource]
    exact bind_eq_error_iff.mpr (.inl h)
  rw [activate, hText]

/-- What there is to say about a resource of a registry of files. -/
structure Outcome (f : Files) (path : Text) : Prop where
  error_iff : ∀ fault, f.read path = .error fault ↔ f.Unread path fault ∨ f.Escapes path fault
  unread : ∀ fault, f.Unread path fault → IsProblemWith path fault
  escapes : ∀ fault, f.Escapes path fault → fault.problem? = none
  /-- The usual case: a text, or a problem that names the resource. -/
  text_or_problem : ¬ f.tree.MeetsLoop (f.root ++ Path.namesOf path) → ¬ f.MayMeetNul path →
    (∀ place bytes, f.root <+: place → f.tree.entryAt place = some (.file bytes) →
      decode? bytes ≠ none) →
    (∃ text, f.read path = .ok text)
      ∨ ∃ fault, f.read path = .error fault ∧ IsProblemWith path fault
  /-- A problem turns the mapping down, and that is logged. -/
  activate_unread : ∀ (mapping : OutputMapping) (s : Stream) (policy : EmptyPolicy) (fault : Fault),
    mapping.isCustom = true → mapping.source = some (.registry (.text path)) →
      f.Unread path fault → activate mapping s (some f.read) policy = .reject s.id fault
  /-- What escapes goes through the activation, and nothing is logged. -/
  activate_escapes : ∀ (mapping : OutputMapping) (s : Stream) (policy : EmptyPolicy)
    (fault : Fault), mapping.isCustom = true → mapping.source = some (.registry (.text path)) →
      f.Escapes path fault → activate mapping s (some f.read) policy = ⟨.error fault, []⟩

/-- **What comes of asking for a resource**, for every tree, every root in it and every path: a
text, a problem that names the resource, or a loop of links, a name that the system cannot have, or
bytes that are no text. An activation turns its mapping down for a problem only. -/
theorem read_reports_or_escapes {t : Tree} {root : Path} (hRoot : ofRoot t root = .ok f)
    (path : Text) : f.Outcome path := by
  obtain ⟨place, hPlace, hMade⟩ := bind_eq_ok_iff.mp hRoot
  cases hMade
  have hNames : place.NulFree := Tree.nulFree_of_resolve hPlace
  have hError : ∀ fault, (Files.mk t place).read path = .error fault ↔
      (Files.mk t place).Unread path fault ∨ (Files.mk t place).Escapes path fault :=
    fun fault => read_eq_error_iff hNames
  constructor
  case error_iff => exact hError
  case unread => exact fun fault => Unread.isProblemWith
  case escapes => exact fun fault => Escapes.problem?_eq_none
  case text_or_problem =>
    intro hLoop hNul hTexts
    rcases hRead : (Files.mk t place).read path with fault | text
    · rcases (hError fault).mp hRead with hUnread | hEscapes
      · exact .inr ⟨fault, rfl, hUnread.isProblemWith⟩
      · exact absurd hEscapes (not_escapes hLoop hNul hTexts)
    · exact .inl ⟨text, rfl⟩
  case activate_unread =>
    intro mapping s policy fault hCustom hSource hUnread
    rw [activate_of_read_eq_error hCustom hSource ((hError fault).mpr (.inl hUnread)),
      Activation.withoutText, if_pos hUnread.isProblemWith.isConfiguration]
  case activate_escapes =>
    intro mapping s policy fault hCustom hSource hEscapes
    have hNoProblem : ¬ fault.isConfiguration = true := by
      rw [Fault.isConfiguration, hEscapes.problem?_eq_none]
      exact Bool.false_ne_true
    rw [activate_of_read_eq_error hCustom hSource ((hError fault).mpr (.inr hEscapes)),
      Activation.withoutText, if_neg hNoProblem]

theorem read_reports_or_escapes_link :
    ∃ f, ofRoot linkedTree ["root".toList] = .ok f
      ∧ f.read "out".toList = .error (.outsideRoot "out".toList "/root".toList)
      ∧ IsProblemWith "out".toList (.outsideRoot "out".toList "/root".toList)
      ∧ activate (mappingOf "out".toList) .braced (some f.read) .null
        = .reject Stream.braced.id (.outsideRoot "out".toList "/root".toList) := by
  have hRoot : ofRoot linkedTree ["root".toList] = .ok ⟨linkedTree, ["root".toList]⟩ := by
    cbv
  have hPlace : (Files.mk linkedTree ["root".toList]).place "out".toList
      = .ok ["secret.txt".toList] := by
    cbv
  have hOutcome := read_reports_or_escapes hRoot "out".toList
  have hUnread : (Files.mk linkedTree ["root".toList]).Unread "out".toList
      (.outsideRoot "out".toList "/root".toList) := .outside hPlace (by decide)
  exact ⟨_, hRoot, (hOutcome.error_iff _).mpr (.inl hUnread), hOutcome.unread _ hUnread,
    hOutcome.activate_unread _ _ _ _ rfl rfl hUnread⟩

/-- Orders whose only byte is no text. -/
def garbledTree : Tree :=
  [(["root".toList], .directory), (["root".toList, "orders.json".toList], .file [0xff])]

/-- The fault is not a problem, and the activation fails without a report. -/
theorem read_garbled :
    ∃ f, ofRoot garbledTree ["root".toList] = .ok f
      ∧ f.read "orders.json".toList = .error .undecodable
      ∧ ¬ IsProblemWith "orders.json".toList .undecodable
      ∧ activate (mappingOf "orders.json".toList) .braced (some f.read) .null
        = ⟨.error .undecodable, []⟩ := by
  have hRoot : ofRoot garbledTree ["root".toList] = .ok ⟨garbledTree, ["root".toList]⟩ := by
    cbv
  have hRead : (Files.mk garbledTree ["root".toList]).read "orders.json".toList
      = .error .undecodable := by
    cbv
  refine ⟨_, hRoot, hRead, ?_, ?_⟩
  · rintro ⟨_, _, hProblem⟩
    cases hProblem
  · rw [activate_of_read_eq_error rfl rfl hRead]
    rfl

end Files

end Registry

end EventLoom
