import EventLoom.Registry.Walk

/-!
# Putting entries into a tree

Directories, files and links are put into a tree the way that the system does it. A directory is
made together with those that are missing on the way to it, and one that is there is left as it
is. A file goes where its path leads, through links too, and takes the place of a file that is
there. A link goes under its path's last name, which must be free, and not where that name may
lead.
-/

namespace EventLoom.Registry.Tree

open Text

/-- Whether a path leads to a directory. -/
def isDirectory (t : Tree) (p : Path) : Bool :=
  match t.find p with
  | .ok place => t.entryAt place = some .directory
  | .error _ => false

/-- The free place under the last name of a path. -/
def freePlace (t : Tree) (p : Path) : Except SystemFailure Path :=
  if pathLimit ≤ byteLength (Path.text p) then .error .nameTooLong
  else
    match p.getLast?, t.find p.dropLast with
    | none, _ => .error .exists
    | some _, .error failure => .error failure
    | some name, .ok dir =>
      if t.entryAt dir ≠ some .directory then .error .notDirectory
      else if name = Path.above then .error .exists
      else if nameLimit < byteLength name then .error .nameTooLong
      else if (t.entryAt (dir ++ [name])).isSome then .error .exists
      else .ok (dir ++ [name])

/-- Make one directory. One that is there already is as good. -/
def makeDirectory (t : Tree) (p : Path) : Except SystemFailure Tree :=
  match t.freePlace p with
  | .ok place => .ok (t.put place .directory)
  | .error .absent => .error .absent
  | .error failure => if t.isDirectory p then .ok t else .error failure

/-- Make a directory and those that are missing on the way to it. -/
def makeDirectories (t : Tree) (p : Path) : Except Fault Tree :=
  match t.makeDirectory p with
  | .ok made => .ok made
  | .error .absent =>
    if _h : p = [] then .ok t
    else
      match makeDirectories t p.dropLast with
      | .error fault => .error fault
      | .ok made => (made.makeDirectory p).mapError (.uncreatable (quoted (Path.text p)))
  | .error failure => .error (.uncreatable (quoted (Path.text p)) failure)
termination_by p.length
decreasing_by
  have : 0 < p.length := List.length_pos_iff.2 _h
  simp only [List.length_dropLast]
  omega

/-- Put a file where a path leads. -/
def makeFile (t : Tree) (p : Path) (bytes : List UInt8) : Except SystemFailure Tree := do
  let place ← t.locate p
  if t.entryAt place = some .directory then throw .isDirectory
  return t.put place (.file bytes)

/-- Put a link under the last name of a path. -/
def makeLink (t : Tree) (p : Path) (target : Text) : Except SystemFailure Tree := do
  if target = [] then throw .absent
  return t.put (← t.freePlace p) (.link target)

/-- Put an entry under a path that is taken from the directory `dir`. -/
def create (t : Tree) (dir : Path) (path : Text) (entry : Entry) : Except Fault Tree := do
  let p := dir ++ Path.namesOf path
  if path.contains '\x00' then throw .embeddedNul
  let t ← t.makeDirectories p.dropLast
  let place := quoted (Path.text p)
  match entry with
  | .directory => t.makeDirectories p
  | .file bytes => (t.makeFile p bytes).mapError (.uncreatable place)
  | .link target =>
    if target.contains '\x00' then throw .embeddedNul
    (t.makeLink p target).mapError (.uncreatable (quoted target ++ " -> ".toList ++ place))

end EventLoom.Registry.Tree
