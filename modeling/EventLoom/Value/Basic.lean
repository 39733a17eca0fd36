import EventLoom.Table
import EventLoom.Number.Decimal
import EventLoom.Value.Key

/-!
# Values

The values that events carry and settings hold. They are not typed beforehand: a stream's
definition names its attributes and says nothing of what they hold.
-/

namespace EventLoom

/-- A value of an event, of a setting or of a log field. -/
inductive Value where
  | null
  | bool (b : Bool)
  | int (n : Int)
  | float (x : Binary64)
  | decimal (d : Decimal)
  | text (t : Text)
  | bytes (b : List UInt8)
  | list (items : List Value)
  | tuple (items : List Value)
  | dict (entries : List (Key × Value))
  deriving Inhabited

/-- A table of values, in the order of its entries. -/
abbrev Entries := List (Key × Value)

/-- Whether an integer has a text: it has at most `Number.digitLimit` digits. The bound is too large
to be computed when two terms are compared. -/
@[irreducible]
def Number.fitsText (n : Int) : Bool := n.natAbs < tenTo digitLimit

theorem Number.fitsText_iff {n : Int} : fitsText n = true ↔ n.natAbs < tenTo digitLimit := by
  unfold fitsText
  exact decide_eq_true_iff

/-- The least natural number without a text. -/
def Number.unwritable : Nat := tenTo digitLimit

/-- Whether the key has a text. -/
def Key.hasText : Key → Bool
  | .int n => Number.fitsText n
  | _ => true

/-- The value that a key is by itself. -/
def Key.toValue : Key → Value
  | .null => .null
  | .bool b => .bool b
  | .int n => .int n
  | .float x => .float x
  | .text t => .text t

namespace Value

/-- The table of values whose keys are the texts of another one. -/
def ofTable (t : Table Value) : Value := .dict (t.map fun (name, v) => (.text name, v))

/-- Whether the value counts as something: null, false, zero and all that is empty do not. -/
def isTruthy : Value → Bool
  | .null => false
  | .bool b => b
  | .int n => n != 0
  | .float x => !x.isZero
  | .decimal d => !d.isZero
  | .text t => !t.isEmpty
  | .bytes b => !b.isEmpty
  | .list items => !items.isEmpty
  | .tuple items => !items.isEmpty
  | .dict entries => !entries.isEmpty

/-- The text, if the value is one. -/
def asText? : Value → Option Text
  | .text t => some t
  | _ => none

mutual

/-- Whether every integer in the value has a text. -/
def hasText : Value → Bool
  | .int n => Number.fitsText n
  | .list items => allHaveText items
  | .tuple items => allHaveText items
  | .dict entries => entriesHaveText entries
  | _ => true

/-- Whether every integer in the items has a text. -/
def allHaveText : List Value → Bool
  | [] => true
  | item :: rest => item.hasText && allHaveText rest

/-- Whether every integer in the entries has a text. -/
def entriesHaveText : List (Key × Value) → Bool
  | [] => true
  | (key, value) :: rest => key.hasText && value.hasText && entriesHaveText rest

end

theorem hasText_unwritable : (int Number.unwritable).hasText = false := by
  rw [hasText, Bool.eq_false_iff, ne_eq, Number.fitsText_iff, Int.natAbs_natCast]
  exact Nat.lt_irrefl _

end Value

end EventLoom
