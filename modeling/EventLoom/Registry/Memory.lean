import EventLoom.Value.Access

/-!
# Resources in memory

The simplest registry is a table from paths to contents. A path has no structure here: it is there
or it is not. Contents should be texts, and nobody sees to it: one that counts as nothing is read
as a text without anything in it, and nothing can be read from any other.

## Results

* `readMemory_put` — what is put under a path is what is read there.
-/

namespace EventLoom.Registry

/-- The text of a content. -/
def contentText : Value → Except Fault Text
  | .text t => .ok t
  | content => if content.isTruthy then .error .noSuchOperation else .ok []

/-- The content of a resource that is kept in memory. -/
def lookUpMemory (resources : Entries) (path : Text) : Except Fault Value :=
  match Table.get? resources (.text path) with
  | some content => .ok content
  | none => .error (.missingResource path)

/-- The text of a resource that is kept in memory. -/
def readMemory (resources : Entries) (path : Text) : Except Fault Text :=
  lookUpMemory resources path >>= contentText

theorem readMemory_put (resources : Entries) (path t : Text) :
    readMemory (Table.put (.text path) (.text t) resources) path = .ok t := by
  have hFound := Table.get?_put resources (.text path) (.text path) (Value.text t)
  simp only [BEq.rfl, if_true] at hFound
  simp [readMemory, lookUpMemory, hFound, contentText, bind, Except.bind]

end EventLoom.Registry
