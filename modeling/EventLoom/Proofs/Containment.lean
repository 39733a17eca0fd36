import Mathlib
import EventLoom.Proofs.Acceptance
import EventLoom.Proofs.LinkWalk
import EventLoom.Registry.Files

/-!
# What can be read through a registry of files

A resource is read only if its path leads to a place under the root, and the comparison is made
with what comes of resolving the path. As long as no loop of links is met, this is a canonical path,
so that opening it leads nowhere else: what is read stands in a regular file beneath the root, and
what stands in other files is neither read nor does it make any difference.

A loop that is met breaks this. What is behind it is put to the path as it is, with the dots taken
out by their names alone, and this can lead back out of the loop and to a link that has not been
looked at. The place seems to be under the root then, but the link is followed when it is opened
(`read_past_loop`).

## Results

* `SameBeneath.resolve_eq` — what stands in files does not matter for where a path leads.
* `SameBeneath.read_eq` — what stands in files elsewhere does not matter beneath the root.
* `read_beneath_root` — what is read without meeting a loop.
* `read_past_loop` — what can be read with one.
-/

namespace EventLoom.Registry

open Text

namespace Tree

variable {t u : Tree} {root p : Path}

-- ---------------------------------------------------------------------------
-- Trees that differ in what stands in their files
-- ---------------------------------------------------------------------------

/-- The trees are the same but for what stands in regular files that are not beneath `root`. -/
def SameBeneath (root : Path) (t u : Tree) : Prop :=
  ∀ p, t.entryAt p = u.entryAt p ∨ ¬ root <+: p ∧
    ∃ bytes bytes', t.entryAt p = some (.file bytes) ∧ u.entryAt p = some (.file bytes')

/-- Writing to a file that is not beneath the root gives such a tree. -/
theorem sameBeneath_put {bytes : List UInt8} (hElsewhere : ¬ root <+: p)
    (hFile : t.entryAt p = some (.file bytes)) (bytes' : List UInt8) :
    SameBeneath root t (t.put p (.file bytes')) := by
  have hTop : p ≠ [] := by
    rintro rfl
    cases hFile
  intro q
  by_cases hSame : q = p
  · subst hSame
    exact .inr ⟨hElsewhere, bytes, bytes', hFile, entryAt_put hTop t _⟩
  · left
    rw [entryAt, entryAt, put, List.lookup_cons, beq_eq_false_iff_ne.mpr hSame]

theorem SameBeneath.target?_eq (h : SameBeneath root t u) (p : Path) :
    t.target? p = u.target? p := by
  rw [target?, target?]
  obtain hSame | ⟨-, bytes, bytes', hThere, hHere⟩ := h p
  · rw [hSame]
  · rw [hThere, hHere]

theorem SameBeneath.isSome_eq (h : SameBeneath root t u) (p : Path) :
    (t.entryAt p).isSome = (u.entryAt p).isSome := by
  obtain hSame | ⟨-, bytes, bytes', hThere, hHere⟩ := h p
  · rw [hSame]
  · rw [hThere, hHere]
    rfl

theorem SameBeneath.not_directory_iff (h : SameBeneath root t u) (p : Path) :
    t.entryAt p ≠ some .directory ↔ u.entryAt p ≠ some .directory := by
  obtain hSame | ⟨-, bytes, bytes', hThere, hHere⟩ := h p
  · rw [hSame]
  · rw [hThere, hHere]
    exact iff_of_true nofun nofun

theorem SameBeneath.absent_iff (h : SameBeneath root t u) (p : Path) :
    t.entryAt p = none ↔ u.entryAt p = none := by
  rw [← Option.isNone_iff_eq_none, ← Option.isNone_iff_eq_none, ← Option.not_isSome,
    ← Option.not_isSome, h.isSome_eq]

theorem SameBeneath.link_iff (h : SameBeneath root t u) (p : Path) (target : Text) :
    t.entryAt p = some (.link target) ↔ u.entryAt p = some (.link target) := by
  rw [← target?_eq_some_iff, ← target?_eq_some_iff, h.target?_eq]

/-- What stands in a file does not matter on the way to it. -/
theorem SameBeneath.locateFrom_eq (h : SameBeneath root t u) (links : Nat) (dir names : Path) :
    t.locateFrom links dir names = u.locateFrom links dir names := by
  fun_induction t.locateFrom links dir names with
  | case1 => rw [locateFrom]
  | case2 links dir name rest hDirectory =>
    rw [h.not_directory_iff] at hDirectory
    rw [locateFrom.eq_def u]
    simp only [if_pos hDirectory]
  | case3 links dir name rest hDirectory hHere ih =>
    rw [h.not_directory_iff] at hDirectory
    rw [ih, locateFrom.eq_def u links dir (name :: rest)]
    simp only [if_neg hDirectory, if_pos hHere]
  | case4 links dir rest hDirectory hHere ih =>
    rw [h.not_directory_iff] at hDirectory
    rw [ih, locateFrom.eq_def u links dir (Path.above :: rest)]
    simp only [if_neg hDirectory, if_neg hHere, if_true]
  | case5 links dir name rest hDirectory hHere hAbove hLong =>
    rw [h.not_directory_iff] at hDirectory
    rw [locateFrom.eq_def u]
    simp only [if_neg hDirectory, if_neg hHere, if_neg hAbove, if_pos hLong]
  | case6 links dir name hDirectory hHere hAbove hLong hAbsent =>
    rw [h.not_directory_iff] at hDirectory
    rw [h.absent_iff] at hAbsent
    rw [locateFrom.eq_def u]
    simp only [if_neg hDirectory, if_neg hHere, if_neg hAbove, if_neg hLong, hAbsent, if_true]
  | case7 links dir name rest hDirectory hHere hAbove hLong hAbsent hRest hEmpty =>
    rw [h.not_directory_iff] at hDirectory
    rw [h.absent_iff] at hAbsent
    rw [locateFrom.eq_def u]
    simp only [if_neg hDirectory, if_neg hHere, if_neg hAbove, if_neg hLong, hAbsent, if_neg hRest,
      if_pos hEmpty]
  | case8 links dir name rest hDirectory hHere hAbove hLong hAbsent hRest hEmpty =>
    rw [h.not_directory_iff] at hDirectory
    rw [h.absent_iff] at hAbsent
    rw [locateFrom.eq_def u]
    simp only [if_neg hDirectory, if_neg hHere, if_neg hAbove, if_neg hLong, hAbsent, if_neg hRest,
      if_neg hEmpty]
  | case9 dir name rest hDirectory hHere hAbove hLong target hLink =>
    rw [h.not_directory_iff] at hDirectory
    rw [h.link_iff] at hLink
    rw [locateFrom.eq_def u]
    simp only [if_neg hDirectory, if_neg hHere, if_neg hAbove, if_neg hLong, hLink]
  | case10 dir name rest hDirectory hHere hAbove hLong target links hLink ih =>
    rw [h.not_directory_iff] at hDirectory
    rw [h.link_iff] at hLink
    rw [ih, locateFrom.eq_def u (links + 1) dir (name :: rest)]
    simp only [if_neg hDirectory, if_neg hHere, if_neg hAbove, if_neg hLong, hLink]
  | case11 dir name rest hDirectory hHere hAbove hLong entry links hNo hNo' hEntry ih =>
    rw [h.not_directory_iff] at hDirectory
    rw [ih, locateFrom.eq_def u links dir (name :: rest)]
    have hSome : (u.entryAt (dir ++ [name])).isSome = true := by
      rw [← h.isSome_eq, hEntry]
      rfl
    have hNoLink : ∀ target, u.entryAt (dir ++ [name]) ≠ some (.link target) := by
      intro target hLink
      rw [← h.link_iff, hEntry] at hLink
      cases hLink
      cases links with
      | zero => exact hNo target rfl rfl
      | succ links => exact hNo' target links rfl rfl
    simp only [if_neg hDirectory, if_neg hHere, if_neg hAbove, if_neg hLong]
    split
    · rename_i hAbsent
      rw [hAbsent] at hSome
      cases hSome
    · rename_i target hLink
      exact absurd hLink (hNoLink target)
    · rename_i target links hLink
      exact absurd hLink (hNoLink target)
    · rfl

theorem SameBeneath.find_eq (h : SameBeneath root t u) (p : Path) : t.find p = u.find p := by
  have hLocate : t.locate p = u.locate p := by
    rw [locate, locate, h.locateFrom_eq]
  rw [find, find, hLocate]
  split
  · rfl
  · rfl
  · rw [h.isSome_eq]

/-- Nor does it matter for where a path leads. -/
theorem SameBeneath.resolve_eq (h : SameBeneath root t u) (names : Path) :
    t.resolve names = u.resolve names := by
  have hDepth : t.unmet [] < t.linkCount + 1 := by
    rw [unmet_nil]
    exact Nat.lt_succ_self _
  have hDepth' : u.unmet [] < u.linkCount + 1 := by
    rw [unmet_nil]
    exact Nat.lt_succ_self _
  rw [resolve, resolve, resolveFrom_congr h.target?_eq hDepth hDepth' [] names]
  simp only [h.find_eq]

-- ---------------------------------------------------------------------------
-- Reading
-- ---------------------------------------------------------------------------

/-- A loop is met on the way from the top along `names`. -/
def MeetsLoop (t : Tree) (names : Path) : Prop :=
  ∃ p met, t.resolveFrom (t.linkCount + 1) [] [] names = .ok (.looped p, met)

theorem canonical_of_resolve {names : Path} (h : t.resolve names = .ok p)
    (hNoLoop : ¬ t.MeetsLoop names) : t.Canonical p := by
  obtain ⟨⟨r, met⟩, hWalk, hEnd⟩ := bind_eq_ok_iff.mp h
  cases r with
  | looped q => exact absurd ⟨q, met, hWalk⟩ hNoLoop
  | clean q =>
    cases hEnd
    have hNone : Met.Canonical t [] := fun _ _ hLookup => nomatch hLookup
    exact ((resolveFrom_spec hWalk).2 canonical_nil hNone).2 p rfl

theorem read_eq_ok_iff {bytes : List UInt8} :
    t.read p = .ok bytes ↔
      ∃ place, t.find p = .ok place ∧ t.entryAt place = some (.file bytes) := by
  rw [read, bind_eq_ok_iff]
  apply exists_congr
  intro place
  apply and_congr_right
  intro _
  constructor
  · intro h
    split at h
    · rename_i stored hEntry
      cases h
      exact hEntry
    · cases h
  · intro hEntry
    rw [hEntry]
    rfl

theorem entryAt_of_read (hCanonical : t.Canonical p) {bytes : List UInt8}
    (h : t.read p = .ok bytes) : t.entryAt p = some (.file bytes) := by
  obtain ⟨place, hFind, hEntry⟩ := read_eq_ok_iff.mp h
  rw [find_of_canonical hCanonical hFind] at hEntry
  exact hEntry

/-- What stands in files elsewhere does not matter for what is read under a canonical path. -/
theorem SameBeneath.read_eq (h : SameBeneath root t u) (hCanonical : t.Canonical p)
    (hBeneath : root <+: p) : t.read p = u.read p := by
  rw [read, read, ← h.find_eq]
  rcases hFind : t.find p with failure | place
  · rfl
  · have hPlace : place = p := find_of_canonical hCanonical hFind
    have hEntry : t.entryAt place = u.entryAt place := by
      rw [hPlace]
      obtain hSame | ⟨hElsewhere, -⟩ := h p
      · exact hSame
      · exact absurd hBeneath hElsewhere
    simp only [bind, Except.bind, hEntry]

end Tree

namespace Files

variable {t u : Tree} {p : Path} {f : Files} {path : Text}

theorem read_eq_ok {text : Text} (h : f.read path = .ok text) :
    ∃ place bytes, f.place path = .ok place ∧ f.root <+: place ∧ f.tree.read place = .ok bytes
      ∧ textOf bytes = .ok text := by
  obtain ⟨place, hPlace, h⟩ := bind_eq_ok_iff.mp h
  split at h
  · cases h
  · rename_i hPrefix
    split at h
    · cases h
    · rename_i bytes hBytes
      have hBeneath : f.root <+: place := List.isPrefixOf_iff_prefix.mp (by simpa using hPrefix)
      exact ⟨place, bytes, hPlace, hBeneath, hBytes, h⟩

/-- Outcomes that are the same but for the path that a fault quotes. -/
inductive SameButPath (path path' : Text) : Except Fault Text → Except Fault Text → Prop where
  | same (outcome : Except Fault Text) : SameButPath path path' outcome outcome
  | outsideRoot (root : Text) :
    SameButPath path path' (.error (.outsideRoot path root)) (.error (.outsideRoot path' root))
  | unreadable (failure : SystemFailure) :
    SameButPath path path' (.error (.unreadable path failure)) (.error (.unreadable path' failure))

theorem namesOf_replicate (count : Nat) (path : Text) :
    Path.namesOf (List.replicate count '/' ++ path) = Path.namesOf path := by
  induction count with
  | zero => rfl
  | succ count ih =>
    rw [← ih]
    rfl

/-- Slashes in front of a path do not matter. -/
theorem read_replicate (f : Files) (count : Nat) (path : Text) :
    SameButPath (List.replicate count '/' ++ path) path
      (f.read (List.replicate count '/' ++ path)) (f.read path) := by
  have hPlace : f.place (List.replicate count '/' ++ path) = f.place path := by
    rw [place, place, namesOf_replicate]
  rw [read, read, hPlace]
  rcases f.place path with fault | place
  · exact .same _
  · show SameButPath _ _ (if _ then _ else _) (if _ then _ else _)
    split
    · exact .outsideRoot _
    · split
      · exact .unreadable _
      · exact .same _

-- ---------------------------------------------------------------------------
-- Every path
-- ---------------------------------------------------------------------------

theorem ofRoot_eq (h : Tree.SameBeneath p t u) (root : Path) :
    ofRoot u root = (ofRoot t root).map fun f => ⟨u, f.root⟩ := by
  rw [ofRoot, ofRoot, h.resolve_eq]
  rcases u.resolve root with fault | place
  · rfl
  · rfl

/-- What stands in files that are not beneath the root makes no difference. -/
theorem read_eq_of_sameBeneath {root : Path} (h : Tree.SameBeneath root t u)
    (hNoLoop : ¬ t.MeetsLoop (root ++ Path.namesOf path)) :
    (Files.mk u root).read path = (Files.mk t root).read path := by
  have hPlace : (Files.mk u root).place path = (Files.mk t root).place path :=
    (h.resolve_eq _).symm
  rw [read, read, hPlace]
  rcases hResolve : (Files.mk t root).place path with fault | place
  · rfl
  · have hCanonical : t.Canonical place := Tree.canonical_of_resolve hResolve hNoLoop
    show (if _ then _ else _) = (if _ then _ else _)
    cases hPrefix : root.isPrefixOf place with
    | false => rfl
    | true =>
      have hRead := h.read_eq hCanonical (List.isPrefixOf_iff_prefix.mp hPrefix)
      simp only [hRead]

/-- **What is read through a registry of files.** The root is found without regard to what stands in
any file, and slashes in front of a path do not matter. A text that is read without meeting a loop
is what stands in a regular file whose canonical path goes through the root, and what stands in
files elsewhere does not matter for what comes of such a path. -/
theorem read_beneath_root (t : Tree) (root : Path) :
    (∀ p u, Tree.SameBeneath p t u → ofRoot u root = (ofRoot t root).map fun f => ⟨u, f.root⟩)
    ∧ ∀ f, ofRoot t root = .ok f → ∀ path,
      (∀ count, SameButPath (List.replicate count '/' ++ path) path
        (f.read (List.replicate count '/' ++ path)) (f.read path))
      ∧ (¬ t.MeetsLoop (f.root ++ Path.namesOf path) →
        (∀ text, f.read path = .ok text → ∃ place bytes, f.root <+: place ∧ t.Canonical place
          ∧ t.entryAt place = some (.file bytes) ∧ textOf bytes = .ok text)
        ∧ ∀ u, Tree.SameBeneath f.root t u → (Files.mk u f.root).read path = f.read path) := by
  refine ⟨fun p u hSame => ofRoot_eq hSame root, ?_⟩
  intro f hRoot path
  obtain ⟨place, -, hMade⟩ := bind_eq_ok_iff.mp hRoot
  cases hMade
  refine ⟨fun count => read_replicate _ count path, ?_⟩
  intro hNoLoop
  refine ⟨?_, fun u hSame => read_eq_of_sameBeneath hSame hNoLoop⟩
  intro text hText
  obtain ⟨found, bytes, hPlace, hBeneath, hBytes, hDecoded⟩ := read_eq_ok hText
  have hCanonical : t.Canonical found := Tree.canonical_of_resolve hPlace hNoLoop
  exact ⟨found, bytes, hBeneath, hCanonical, Tree.entryAt_of_read hCanonical hBytes, hDecoded⟩

/-- The directory of a registry with an order and three links: one to itself, one to a file
elsewhere, and one that leads out of the directory and back to the order. -/
def linkedTree : Tree :=
  [(["root".toList], .directory),
    (["root".toList, "loop".toList], .link "loop".toList),
    (["root".toList, "out".toList], .link "../secret.txt".toList),
    (["root".toList, "up".toList], .link "../root/order".toList),
    (["root".toList, "order".toList], .file (encode "parcel".toList)),
    (["secret.txt".toList], .file (encode "top secret".toList))]

theorem read_beneath_root_link :
    ∃ f place bytes, ofRoot linkedTree ["root".toList] = .ok f
      ∧ f.read "//up".toList = .ok "parcel".toList ∧ f.root <+: place
      ∧ linkedTree.Canonical place ∧ linkedTree.entryAt place = some (.file bytes)
      ∧ textOf bytes = .ok "parcel".toList
      ∧ ∀ secret, (Files.mk (linkedTree.put ["secret.txt".toList] (.file secret)) f.root).read
        "//up".toList = .ok "parcel".toList := by
  have hRoot : ofRoot linkedTree ["root".toList] = .ok ⟨linkedTree, ["root".toList]⟩ := by
    cbv
  have hRead : (Files.mk linkedTree ["root".toList]).read "//up".toList = .ok "parcel".toList := by
    cbv
  have hNoLoop : ¬ linkedTree.MeetsLoop (["root".toList] ++ Path.namesOf "//up".toList) := by
    rintro ⟨p, met, hLooped⟩
    have hClean : linkedTree.resolveFrom (linkedTree.linkCount + 1) [] []
        (["root".toList] ++ Path.namesOf "//up".toList) = .ok (.clean ["root".toList, "order".toList],
          [(["root".toList, "up".toList], some ["root".toList, "order".toList]),
            (["root".toList, "up".toList], none)]) := by
      cbv
    rw [hClean] at hLooped
    cases hLooped
  obtain ⟨-, hPaths⟩ := read_beneath_root linkedTree ["root".toList]
  obtain ⟨-, hText⟩ := hPaths _ hRoot "//up".toList
  obtain ⟨hBeneath, hElsewhere⟩ := hText hNoLoop
  obtain ⟨place, bytes, hPrefix, hCanonical, hEntry, hDecoded⟩ := hBeneath _ hRead
  refine ⟨_, place, bytes, hRoot, hRead, hPrefix, hCanonical, hEntry, hDecoded, ?_⟩
  intro secret
  have hFile : linkedTree.entryAt ["secret.txt".toList]
      = some (.file (encode "top secret".toList)) := rfl
  rw [hElsewhere _ (Tree.sameBeneath_put (by decide) hFile secret), hRead]

/-- Behind a loop a link out of the root is followed. The text that is read stands in no regular
file beneath the root. -/
theorem read_past_loop :
    ∃ f, ofRoot linkedTree ["root".toList] = .ok f
      ∧ f.read "loop/../out".toList = .ok "top secret".toList
      ∧ ∀ place bytes, f.root <+: place → linkedTree.entryAt place = some (.file bytes) →
        textOf bytes ≠ .ok "top secret".toList := by
  have hRoot : ofRoot linkedTree ["root".toList] = .ok ⟨linkedTree, ["root".toList]⟩ := by
    cbv
  have hRead : (Files.mk linkedTree ["root".toList]).read "loop/../out".toList
      = .ok "top secret".toList := by
    cbv
  refine ⟨_, hRoot, hRead, ?_⟩
  intro place bytes hBeneath hEntry
  obtain ⟨rest, rfl⟩ := hBeneath
  rw [Tree.entryAt, if_neg (by simp)] at hEntry
  obtain ⟨before, behind, hSplit, -⟩ := List.lookup_eq_some_iff.mp hEntry
  have hMem : (["root".toList] ++ rest, Entry.file bytes) ∈ linkedTree := by
    rw [hSplit]
    exact List.mem_append_right _ List.mem_cons_self
  -- the order is the only file there
  have hOrder : rest = ["order".toList] ∧ bytes = encode "parcel".toList := by
    simpa [linkedTree] using hMem
  have hText : textOf bytes = .ok "parcel".toList := by
    rw [hOrder.2]
    cbv
  rw [hText]
  intro hSecret
  cases hSecret

end Files

end EventLoom.Registry
