import EventLoom.Registry.Tree

/-!
# Following links

There are two ways to get from a path to an entry of a tree.

* `resolve` takes links and dots out of a path one name after the other and tolerates names that
  lead nowhere. Where a link leads is found once and kept. A link that is met again while it is
  being followed is a loop; then the names that are left are put behind it as they are, and the
  dots are taken out of the whole without regard to links. The path that comes of this may still
  lead through links.
* `find` goes the way that the system goes when a file is opened: every name has to be there,
  directories have to be directories, names and paths have a greatest length, and no more than
  a fixed number of links is followed. `locate` goes the same way and lets the last name be
  missing, as it may be when something is about to be put there.

Two things are outside of what is described here. However many links lead through one another,
`resolve` follows them, though for about a thousand there is no room to do that. And where a loop
leaves a path that begins with two slashes, they are taken for one.

## Results

* `resolveFrom_nil` — what is resolved already stays as it is.
-/

namespace EventLoom.Registry

open Text

-- ---------------------------------------------------------------------------
-- The system's way
-- ---------------------------------------------------------------------------

/-- The most bytes that a name may have. -/
def nameLimit : Nat := 255

/-- The number of bytes that is too many for a path. -/
def pathLimit : Nat := 4096

/-- The most links that are followed on the way to an entry. -/
def linkLimit : Nat := 40

/-- The number of bytes of a text. -/
def byteLength (t : Text) : Nat := t.foldl (fun size c => size + c.utf8Size) 0

/-- The directory that a link's target starts from, if the link is in the directory `dir`. -/
def linkStart (dir : Path) (target : Text) : Path :=
  if Path.isAbsolute target then [] else dir

namespace Tree

/-- The place that `names` lead to from `dir`, with at most `links` links on the way. Only the
last name may be missing. -/
def locateFrom (t : Tree) (links : Nat) (dir names : Path) : Except SystemFailure Path :=
  match names with
  | [] => .ok dir
  | name :: rest =>
    if t.entryAt dir ≠ some .directory then .error .notDirectory
    else if name = [] ∨ name = Path.here then locateFrom t links dir rest
    else if name = Path.above then locateFrom t links dir.dropLast rest
    else if nameLimit < byteLength name then .error .nameTooLong
    else
      match t.entryAt (dir ++ [name]), links with
      | none, _ =>
        if rest = [] then .ok (dir ++ [name])
        -- what has slashes behind it can only be a directory
        else if rest.all List.isEmpty then .error .isDirectory
        else .error .absent
      | some (.link _), 0 => .error .tooManyLinks
      | some (.link target), links + 1 =>
        locateFrom t links (linkStart dir target) (Path.ofText target ++ rest)
      | some _, links => locateFrom t links (dir ++ [name]) rest
termination_by (links, names.length)

/-- The place that a path leads to, through no link any more. Only its last name may be missing. -/
def locate (t : Tree) (p : Path) : Except SystemFailure Path :=
  if pathLimit ≤ byteLength (Path.text p) then .error .nameTooLong
  else t.locateFrom linkLimit [] p

/-- The path of the entry that a path leads to, through no link any more. -/
def find (t : Tree) (p : Path) : Except SystemFailure Path :=
  match t.locate p with
  | .error .isDirectory => .error .absent
  | .error failure => .error failure
  | .ok place => if (t.entryAt place).isSome then .ok place else .error .absent

/-- The bytes of the file that a path leads to. -/
def read (t : Tree) (p : Path) : Except SystemFailure (List UInt8) := do
  match t.entryAt (← t.find p) with
  | some (.file bytes) => return bytes
  | _ => throw .isDirectory

-- ---------------------------------------------------------------------------
-- Taking links and dots out
-- ---------------------------------------------------------------------------

/-- What comes of taking links and dots out of a path. -/
inductive Resolved where
  /-- Neither is left. -/
  | clean (p : Path)
  /-- A loop was met; from there on, names are as they were. -/
  | looped (p : Path)
  deriving DecidableEq, Repr

/-- The resolved path with more names behind it that are not looked at. -/
def Resolved.leave (r : Resolved) (rest : Path) : Resolved :=
  match r with
  | .clean p => .looped (Path.append p rest)
  | .looped p => .looped (Path.append p rest)

/-- The links that have been met, the last one first, each with the resolved path that it leads
to, or with nothing while it is still being followed. -/
abbrev Met := List (Path × Option Path)

/-- Take links and dots out of `names`, which start from the resolved path `done`. The links in
`met` have been met before, and `depth` bounds how many more can be followed at the same time. -/
def resolveFrom (t : Tree) (depth : Nat) (met : Met) (done names : Path) :
    Except Fault (Resolved × Met) :=
  match names with
  | [] => .ok (.clean done, met)
  | name :: rest =>
    if name = [] ∨ name = Path.here then resolveFrom t depth met done rest
    else if name = Path.above then resolveFrom t depth met done.dropLast rest
    else if '\x00' ∈ name then .error .embeddedNul
    else
      match t.target? (done ++ [name]), depth with
      | none, depth => resolveFrom t depth met (done ++ [name]) rest
      | some _, 0 => .ok (Resolved.leave (.clean (done ++ [name])) rest, met)
      | some target, depth + 1 =>
        match met.lookup (done ++ [name]) with
        | some (some p) => resolveFrom t (depth + 1) met p rest
        | some none => .ok (Resolved.leave (.clean (done ++ [name])) rest, met)
        | none =>
          match resolveFrom t depth ((done ++ [name], none) :: met) (linkStart done target)
              (Path.ofText target) with
          | .error fault => .error fault
          | .ok (.looped p, met) => .ok (Resolved.leave (.looped p) rest, met)
          | .ok (.clean p, met) =>
            resolveFrom t (depth + 1) ((done ++ [name], some p) :: met) p rest
termination_by (depth, names.length)

/-- Take links and dots out of a path that starts at the top. No more links can be followed at
the same time than the tree has, so one more than that is enough. -/
def resolve (t : Tree) (names : Path) : Except Fault Path := do
  match ← t.resolveFrom (t.linkCount + 1) [] [] names with
  | (.clean p, _) => return p
  | (.looped p, _) =>
    let p := Path.normalize p
    if p.any fun name => '\x00' ∈ name then .error .embeddedNul
    else
      match t.find p with
      | .error .tooManyLinks => .error (.linkLoop (Path.text p))
      | _ => return p

theorem resolveFrom_nil (t : Tree) (depth : Nat) (met : Met) (done : Path) :
    t.resolveFrom depth met done [] = .ok (.clean done, met) := by
  simp [resolveFrom]

end Tree

end EventLoom.Registry
