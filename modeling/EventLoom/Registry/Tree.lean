import EventLoom.Fault

/-!
# Trees of files

A tree of directories, regular files and symbolic links is listed entry by entry, each under the
names that lead to it from the top. A path is such a list of names; as a text the names are
separated by slashes, empty names and single dots mean nothing, and two dots mean the directory
above. Names are made of characters. Half of a surrogate pair is none, so a path that has one, which
cannot be handed to the system, is outside of what is described here.

## Results

* `entryAt_put` — an entry is found under the path that it was put under.
-/

namespace EventLoom.Registry

open Text

/-- The names that lead from the top of a tree to one of its entries. -/
abbrev Path := List Text

/-- What a tree has under a path. -/
inductive Entry where
  | directory
  | file (bytes : List UInt8)
  | link (target : Text)
  deriving DecidableEq, Repr

/-- A tree, entry by entry. -/
abbrev Tree := List (Path × Entry)

namespace Path

/-- The name that stands for the directory itself. -/
def here : Text := ['.']

/-- The name that stands for the directory above. -/
def above : Text := ['.', '.']

/-- The path as a text that starts at the top. -/
def text (p : Path) : Text := '/' :: join ['/'] p

/-- Whether a text starts at the top. -/
def isAbsolute (t : Text) : Bool := t.head? = some '/'

/-- The names in a text, empty ones included. -/
def ofText (t : Text) : Path := cut '/' t

/-- The names in a text that mean something. -/
def namesOf (t : Text) : Path := (ofText t).filter fun name => name ≠ [] ∧ name ≠ here

/-- Take the dots out of a path that starts at the top, without looking at any tree. -/
def normalize (p : Path) : Path :=
  p.foldl (fun done name =>
    if name = [] ∨ name = here then done
    else if name = above then done.dropLast
    else done ++ [name]) []

/-- The names `rest` behind the path `p`. If `rest` is the text of a path that starts at the
top, it takes the place of `p`. -/
def append (p rest : Path) : Path :=
  match rest with
  | [] :: _ :: _ => rest
  | _ => p ++ rest

end Path

namespace Tree

/-- What the tree has under a path; the top is a directory. -/
def entryAt (t : Tree) (p : Path) : Option Entry :=
  if p = [] then some .directory else t.lookup p

/-- The target of the link under a path. -/
def target? (t : Tree) (p : Path) : Option Text :=
  match t.entryAt p with
  | some (.link target) => some target
  | _ => none

/-- The number of links in the tree. -/
def linkCount (t : Tree) : Nat :=
  t.countP fun entry => match entry.2 with
    | .link _ => true
    | _ => false

/-- Put an entry under a path, in place of one that may be there. -/
def put (t : Tree) (p : Path) (entry : Entry) : Tree := (p, entry) :: t

theorem entryAt_put {p : Path} (h : p ≠ []) (t : Tree) (entry : Entry) :
    (t.put p entry).entryAt p = some entry := by
  simp [entryAt, put, h]

end Tree

end EventLoom.Registry
