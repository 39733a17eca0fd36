import EventLoom.Fault
import EventLoom.Text.Hex

/-!
# Values as sequences and tables

What an operation may do with a value whose kind it does not know: write it, take its length,
ask for the item at a position, go through its items, or take it for a key, for a table, or for a
byte string in hexadecimal. Texts,
byte strings, lists, tuples and tables are sequences; a table's items are its keys, and a table is
asked for a position as for any other key.

Positions below zero count from the end.

## Results

* `item_eq_ok_of_lt` — a list has an item at every position before its end.
-/

namespace EventLoom.Value

open Text

/-- The value as it stands by itself, unless an integer in it is too long to be written. -/
def written (v : Value) : Except Fault Text :=
  if v.hasText then .ok v.plain else .error .unwritableInteger

/-- A fault that tells the value, unless an integer in it is too long to be told. -/
def telling (v : Value) (fault : Fault) : Fault :=
  match v.written with
  | .ok _ => fault
  | .error unwritable => unwritable

theorem telling_of_hasText {v : Value} (h : v.hasText = true) (fault : Fault) :
    v.telling fault = fault := by
  rw [telling, written, if_pos h]

theorem telling_of_not_hasText {v : Value} (h : v.hasText = false) (fault : Fault) :
    v.telling fault = .unwritableInteger := by
  rw [telling, written, h, if_neg Bool.false_ne_true]

/-- Telling a value is all that can go wrong. -/
theorem telling_eq_or (v : Value) (fault : Fault) :
    v.telling fault = fault ∨ v.telling fault = .unwritableInteger := by
  cases hText : v.hasText with
  | true => exact .inl (telling_of_hasText hText fault)
  | false => exact .inr (telling_of_not_hasText hText fault)

/-- The bytes that a value denotes as a hexadecimal text. -/
def toBytes : Value → Except Fault (List UInt8)
  | .text t => (bytesOfHex t).mapError .notHexadecimal
  | _ => .error .wrongType

/-- The number of items. -/
def length? : Value → Option Nat
  | .text t => some t.length
  | .bytes b => some b.length
  | .list items => some items.length
  | .tuple items => some items.length
  | .dict entries => some entries.length
  | _ => none

/-- The integer that the value counts as: truth values are one and zero. -/
def asInteger? : Value → Option Int
  | .int n => some n
  | .bool b => some b.toInt
  | _ => none

/-- The key that the value can be. -/
def toKey : Value → Except Fault Key
  | .null => .ok .null
  | .bool b => .ok (.bool b)
  | .int n => .ok (.int n)
  | .float x => .ok (.float x)
  | .text t => .ok (.text t)
  | _ => .error .wrongType

/-- The value under a key that has to be there. -/
def ofEntry (entries : Entries) (key : Key) : Except Fault Value :=
  match Table.get? entries key with
  | some v => .ok v
  | none => .error (.absentKey key)

-- ---------------------------------------------------------------------------
-- Items
-- ---------------------------------------------------------------------------

/-- The item of a list at a position that may count from the end. -/
def itemOf (items : List Value) (position : Int) : Except Fault Value :=
  let place := if position < 0 then items.length + position else position
  if place < 0 then .error .outOfRange
  else
    match items[place.toNat]? with
    | some v => .ok v
    | none => .error .outOfRange

/-- The characters of a text, each as a text. -/
def ofChars (t : Text) : List Value := t.map fun c => .text [c]

/-- The bytes of a byte string, each as its number. -/
def ofBytes (b : List UInt8) : List Value := b.map fun byte => .int byte.toNat

/-- The items of what is a sequence and no table. -/
def sequence? : Value → Option (List Value)
  | .list items | .tuple items => some items
  | .text t => some (ofChars t)
  | .bytes b => some (ofBytes b)
  | _ => none

/-- The item at a position. -/
def item (v position : Value) : Except Fault Value :=
  match v, v.sequence?, position.asInteger? with
  | .dict entries, _, _ => position.toKey >>= ofEntry entries
  | _, some items, some place => itemOf items place
  | _, _, _ => .error .wrongType

/-- All items in order. -/
def items (v : Value) : Except Fault (List Value) :=
  match v, v.sequence? with
  | .dict entries, _ => .ok ((Table.keys entries).map Key.toValue)
  | _, some items => .ok items
  | _, none => .error .wrongType

/-- The two items of a value that has two. -/
def pair (v : Value) : Except Fault (Value × Value) := do
  match ← v.items with
  | [first, second] => return (first, second)
  | [] => throw (.tooFewItems 2 0)
  | [_] => throw (.tooFewItems 2 1)
  | _ => throw (.tooManyItems 2)

theorem item_eq_ok_of_lt {items : List Value} {place : Nat} (h : place < items.length) :
    itemOf items place = .ok items[place] := by
  have hSign : ¬ ((place : Int) < 0) := by omega
  simp [itemOf, hSign, h]

-- ---------------------------------------------------------------------------
-- Tables
-- ---------------------------------------------------------------------------

/-- Write the entries that items are, the first of which is at `index` of the whole. -/
def putEntries (index : Nat) (t : Entries) : List Value → Except Fault Entries
  | [] => .ok t
  | entry :: rest => do
    match ← entry.items with
    | [key, v] => putEntries (index + 1) (Table.put (← key.toKey) v t) rest
    | parts => throw (.notEntry index parts.length)

/-- The table that the value is. -/
def asEntries : Value → Except Fault Entries
  | .dict entries => .ok entries
  | _ => .error .wrongType

/-- The table that the value is, or that its items are the entries of. -/
def toEntries (v : Value) : Except Fault Entries :=
  match v with
  | .dict entries => .ok entries
  | _ => v.items >>= putEntries 0 []

end EventLoom.Value
