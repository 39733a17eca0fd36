import EventLoom.Mapping.Basic
import EventLoom.Text.Case
import EventLoom.Value.Access

/-!
# Output mappings as records

A mapping is kept as a record with the members `type`, `customMapping` and, for a source,
`inline` or `registry`. Reading is lenient about kinds of values: whether a mapping is custom
may be a truth value, nothing at all, or any value that reads `enable` or `disable`, and type and
source are whatever text their values have.

## Results

* `readFlag_flagWord` — the word for a flag reads back as the flag.
-/

namespace EventLoom.OutputMapping

open Text

/-- The word for whether a mapping is custom. -/
def flagWord (custom : Bool) : Text :=
  if custom then "enable".toList else "disable".toList

/-- Whether a mapping is custom. Case, and white space around the word, do not matter. -/
def readFlag : Value → Except Fault Bool
  | .null => .ok true
  | .bool b => .ok b
  | v => do
    let word := lower (strip (← v.written))
    if word = flagWord true then .ok true
    else if word = flagWord false then .ok false
    else .error (.badFlag v)

/-- The member of a record; null if it is not there. -/
def memberOf (record : Entries) (name : Text) : Value :=
  (Table.get? record (.text name)).getD .null

/-- The source that a record gives. -/
def readSource (record : Entries) : Except Fault (Option Source) :=
  match memberOf record "inline".toList, memberOf record "registry".toList with
  | .null, .null => .ok none
  | .null, path => do return some (.registry (.text (← path.written)))
  | t, .null => do return some (.inline (.text (← t.written)))
  | _, _ => .error .twoSources

/-- The mapping that a record holds. -/
def ofRecord (record : Value) : Except Fault OutputMapping := do
  let record ← record.asEntries.mapError fun _ => .noSuchOperation
  let custom ← readFlag (memberOf record "customMapping".toList)
  let type ← ((Table.get? record (.text "type".toList)).getD (.text jsonType)).written
  let source ← if custom then readSource record else .ok none
  check ⟨.bool custom, source, .text type⟩

/-- The mapping as a record. -/
def toRecord (m : OutputMapping) : Table Value :=
  [("type".toList, m.type), ("customMapping".toList, .text (flagWord m.isCustom))] ++
    match m.source with
    | none => []
    | some (.inline t) => [("inline".toList, t)]
    | some (.registry path) => [("registry".toList, path)]

theorem readFlag_flagWord (custom : Bool) : readFlag (.text (flagWord custom)) = .ok custom := by
  cases custom <;> rfl

end EventLoom.OutputMapping
