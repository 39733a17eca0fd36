import EventLoom.Registry.Walk
import EventLoom.Text.Newline
import EventLoom.Text.Utf8

/-!
# Resources in files

A registry of files keeps its resources under one directory, its root. A path is taken from the
root, whether it begins with slashes or not, and is resolved; if what comes of it is not under the
root, name by name, nothing is read. A resource is a text in UTF-8, and all ways to end a line
count as one.

## Results

* `outside_of_not_prefix` — a path that resolves to a place outside the root is refused.
-/

namespace EventLoom.Registry

open Text

/-- A tree of files with the directory that holds the resources. -/
structure Files where
  tree : Tree
  root : Path

namespace Files

/-- The registry of the files under a directory. -/
def ofRoot (tree : Tree) (root : Path) : Except Fault Files := do
  return ⟨tree, ← tree.resolve root⟩

/-- The place that a resource's path means. -/
def place (f : Files) (path : Text) : Except Fault Path :=
  f.tree.resolve (f.root ++ Path.namesOf path)

/-- The text of a file's bytes. -/
def textOf (bytes : List UInt8) : Except Fault Text :=
  match decode? bytes with
  | some t => .ok (unifyNewlines t)
  | none => .error .undecodable

/-- The text of a resource. -/
def read (f : Files) (path : Text) : Except Fault Text := do
  let place ← f.place path
  if !f.root.isPrefixOf place then .error (.outsideRoot path (Path.text f.root))
  else
    match f.tree.read place with
    | .error failure => .error (.unreadable path failure)
    | .ok bytes => textOf bytes

theorem outside_of_not_prefix {f : Files} {path : Text} {place : Path}
    (hPlace : f.place path = .ok place) (hOutside : f.root.isPrefixOf place = false) :
    f.read path = .error (.outsideRoot path (Path.text f.root)) := by
  simp [read, hPlace, hOutside, bind, Except.bind]

end Files

end EventLoom.Registry
