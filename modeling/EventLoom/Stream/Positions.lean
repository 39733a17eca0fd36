import EventLoom.Stream.Declaration

/-!
# Positions

The positions of a stream say for each placeholder key which value of an event it stands for.
They can also be given by hand; then keys, positions and the name of the stream may be any values,
and it shows when an event is rendered what they are good for.

## Results

* `lookup_eq_ok_iff` — looking a key up finds what the table of positions holds.
-/

namespace EventLoom

open Text Number

/-- Positions by key, and the name of the stream that they belong to. -/
structure Positions where
  entries : Entries
  streamId : Value

namespace Positions

/-- The positions of a stream's attributes. -/
def ofStream (s : Stream) : Positions :=
  ⟨Table.ofEntries (s.placeholderKeys.map fun (key, position) => (.text key, .int position)),
    .text s.id⟩

/-- The position of a key that has to be there. -/
def lookup (p : Positions) (key : Key) : Except Fault Value := Value.ofEntry p.entries key

/-- Whether the key has a position. -/
def contains (p : Positions) (key : Key) : Bool := (Table.get? p.entries key).isSome

theorem lookup_eq_ok_iff (p : Positions) (key : Key) (position : Value) :
    p.lookup key = .ok position ↔ Table.get? p.entries key = some position := by
  unfold lookup Value.ofEntry
  split <;> simp_all

/-- The positions as one line of text. -/
def describe (p : Positions) : Text :=
  "PositionMap(".toList ++ (Value.dict p.entries).quoted ++ ", stream_id=".toList
    ++ p.streamId.quoted ++ [')']

end Positions

end EventLoom
