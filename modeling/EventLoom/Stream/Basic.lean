import EventLoom.Template.Basic
import EventLoom.Value.Access

/-!
# Streams

A stream's definition names the attributes of its events, group by group. Its attributes in
layout order, the metadata first and the payload last, are the positions of an event's values.

Every attribute has a key: its name, behind the lead of its group. Metadata and correlation
attributes have their bare name as a second key.

## Results

* `length_placeholderKeys` — an attribute outside of the payload has two keys, the others one.
-/

namespace EventLoom

open Text

/-- An attribute of a stream's events. -/
structure Attribute where
  name : Text
  group : Group
  deriving DecidableEq, Repr

namespace Attribute

/-- The key that a placeholder names the attribute with. -/
def key (a : Attribute) : Text := a.group.keyLead ++ a.name

end Attribute

/-- A stream with the names of its attributes. The stream's own name may be any value that
counts as something, and its version any value at all. -/
structure Stream where
  name : Value
  version : Value
  metadata : List Text
  correlation : List Text
  payload : List Text

/-- The name of a stream together with its version. -/
def streamIdOf (name version : Value) : Text := name.plain ++ ':' :: version.plain

namespace Stream

/-- The version of a stream that states none. -/
def defaultVersion : Value := .text "1.0.0".toList

/-- The name of the stream together with its version. -/
def id (s : Stream) : Text := streamIdOf s.name s.version

/-- The names of the attributes in a group. -/
def names (s : Stream) : Group → List Text
  | .metadata => s.metadata
  | .correlation => s.correlation
  | .payload => s.payload

/-- The attributes in layout order. -/
def attributes (s : Stream) : List Attribute :=
  Group.all.flatMap fun g => (s.names g).map (⟨·, g⟩)

/-- Every placeholder key of a layout with the position that it stands for. -/
def keysOf (attributes : List Attribute) : List (Text × Nat) :=
  (attributes.zipIdx.map fun (a, position) => (a.key, position))
    ++ (attributes.zipIdx.filter fun (a, _) => a.group.hasBareKey).map
      fun (a, position) => (a.name, position)

/-- Every placeholder key of the stream with the position that it stands for. -/
def placeholderKeys (s : Stream) : List (Text × Nat) := keysOf s.attributes

theorem attributes_eq (s : Stream) :
    s.attributes = s.metadata.map (⟨·, .metadata⟩) ++ s.correlation.map (⟨·, .correlation⟩)
      ++ s.payload.map (⟨·, .payload⟩) := by
  simp [attributes, Group.all, names]

theorem length_placeholderKeys (s : Stream) :
    s.placeholderKeys.length
      = s.attributes.length + (s.metadata.length + s.correlation.length) := by
  have hBare : (s.attributes.zipIdx.filter fun (a, _) => a.group.hasBareKey).length
      = (s.attributes.filter fun a => a.group.hasBareKey).length := by
    rw [← List.countP_eq_length_filter, ← List.countP_eq_length_filter]
    conv => rhs; rw [← List.zipIdx_map_fst 0 s.attributes, List.countP_map]
    rfl
  have hCount : (s.attributes.filter fun a => a.group.hasBareKey).length
      = s.metadata.length + s.correlation.length := by
    simp only [attributes_eq, List.filter_append, List.filter_map, Function.comp_def,
      Group.hasBareKey, List.length_append, List.length_map]
    rw [List.filter_eq_self.2 (by simp), List.filter_eq_self.2 (by simp),
      List.filter_eq_nil_iff.2 (by simp)]
    simp
  simp [placeholderKeys, keysOf, hBare, hCount]

end Stream

-- ---------------------------------------------------------------------------
-- Names that can be keys
-- ---------------------------------------------------------------------------

/-- Whether a name, put between placeholder tokens into a JSON template, reads back as a key. It
holds neither token, does not end as the closing token begins, and JSON does not escape it. -/
def isPlaceholderSafe (name : Text) : Bool :=
  !hasToken openToken name && !hasToken closeToken name && name.getLast? != some '}'
    && Json.escape name == name

end EventLoom
