import EventLoom.Proofs.AttributeValues
import EventLoom.Proofs.StreamRefusals

/-!
# Where the keys of a stream lead

The positions of a stream are written into a table, key by key. A key that came a second time would
take the place of the first one there, and events would then be rendered with the value of one
attribute at the placeholder of another, without a fault to tell of it. The table has no check
against this. What it relies on is that the stream has been accepted: then no two entries that are
written have the same key (`Stream.Valid.keys_distinct`), so every entry is still there at the end
(`entries_ofStream`), and looking up a key finds the one attribute that answers to it.

## Results

* `entries_ofStream` — no entry is lost.
* `lookup_ofStream_eq_ok_iff` — what a key leads to.
* `eq_of_answersTo` — no two attributes answer to one key.
* `indexes_of_accept` — the positions of an accepted stream index its layout.
-/

namespace EventLoom

open Text

-- ---------------------------------------------------------------------------
-- Entries
-- ---------------------------------------------------------------------------

/-- Only texts are keys of positions. -/
theorem get?_positionEntries_of_not_text {list : List (Text × Nat)} {key : Key}
    (h : ∀ name, key ≠ .text name) : Table.get? (positionEntries list) key = none := by
  induction list with
  | nil => rfl
  | cons entry rest ih =>
    have hOther : ¬ (Key.text entry.1 == key) = true := by
      rw [Key.beq_iff]
      intro hSame
      cases key with
      | text name => exact h name rfl
      | float x =>
        simp only [Key.identity] at hSame
        split at hSame <;> cases hSame
      | _ => cases hSame
    rw [positionEntries, List.map_cons, Table.get?_cons, if_neg hOther]
    exact ih

theorem keys_positionEntries (list : List (Text × Nat)) :
    Table.keys (positionEntries list) = (list.map Prod.fst).map Key.text := by
  rw [Table.keys, positionEntries, List.map_map, List.map_map]
  rfl

namespace Positions

variable {s : Stream} (h : s.Valid)
include h

/-- **No entry is lost** when the positions of a stream are written into a table. -/
theorem entries_ofStream : (ofStream s).entries = positionEntries s.placeholderKeys :=
  @merge_positionEntries [] s.placeholderKeys h.keys_distinct

theorem length_entries_ofStream :
    (ofStream s).entries.length
      = s.attributes.length + s.attributes.countP fun a => a.group ≠ .payload := by
  have hTwice : (s.attributes.countP fun a => a.group ≠ .payload)
      = s.metadata.length + s.correlation.length := by
    rw [Stream.attributes_eq]
    simp [List.countP_append, List.countP_map, Function.comp_def]
  rw [entries_ofStream h, positionEntries, List.length_map, Stream.length_placeholderKeys, hTwice]

theorem nodup_keys_ofStream : (Table.keys (ofStream s).entries).Nodup := by
  rw [entries_ofStream h, keys_positionEntries]
  exact h.keys_distinct.map fun _ _ hSame => Key.text.inj hSame

/-- **What a key leads to**: the position of an attribute that answers to it. -/
theorem lookup_ofStream_eq_ok_iff {key : Key} {v : Value} :
    (ofStream s).lookup key = .ok v ↔
      ∃ (position : Nat) (a : Attribute) (name : Text), s.attributes[position]? = some a
        ∧ a.AnswersTo name ∧ key = .text name ∧ v = .int position := by
  rw [lookup_eq_ok_iff]
  constructor
  · intro hGet
    by_cases hText : ∃ name, key = .text name
    · obtain ⟨name, rfl⟩ := hText
      obtain ⟨position, hMem, rfl⟩ := (get?_ofStream_iff h).mp hGet
      obtain ⟨a, ha, hName⟩ := mem_placeholderKeys_iff.mp hMem
      exact ⟨position, a, name, ha, hName, rfl, rfl⟩
    · rw [entries_ofStream h, get?_positionEntries_of_not_text (not_exists.mp hText)] at hGet
      cases hGet
  · rintro ⟨position, a, name, ha, hName, rfl, rfl⟩
    exact (get?_ofStream_iff h).mpr ⟨position, mem_placeholderKeys_iff.mpr ⟨a, ha, hName⟩, rfl⟩

theorem lookup_ofStream_of_answersTo {position : Nat} {a : Attribute} {name : Text}
    (ha : s.attributes[position]? = some a) (hName : a.AnswersTo name) :
    (ofStream s).lookup (.text name) = .ok (.int position) :=
  (lookup_ofStream_eq_ok_iff h).mpr ⟨position, a, name, ha, hName, rfl, rfl⟩

/-- The position that a key leads to tells which attribute it is. -/
theorem eq_of_lookup_eq {a b : Attribute} (ha : a ∈ s.attributes) (hb : b ∈ s.attributes)
    {name name' : Text} (hName : a.AnswersTo name) (hName' : b.AnswersTo name')
    (hSame : (ofStream s).lookup (.text name) = (ofStream s).lookup (.text name')) : a = b := by
  obtain ⟨i, hi⟩ := List.mem_iff_getElem?.mp ha
  obtain ⟨j, hj⟩ := List.mem_iff_getElem?.mp hb
  rw [lookup_ofStream_of_answersTo h hi hName, lookup_ofStream_of_answersTo h hj hName',
    Except.ok.injEq, Value.int.injEq, Int.natCast_inj] at hSame
  rw [hSame, hj] at hi
  exact (Option.some.inj hi).symm

/-- **No two attributes answer to one key.** -/
theorem eq_of_answersTo {a b : Attribute} (ha : a ∈ s.attributes) (hb : b ∈ s.attributes)
    {name : Text} (hName : a.AnswersTo name) (hName' : b.AnswersTo name) : a = b :=
  eq_of_lookup_eq h ha hb hName hName' rfl

end Positions

-- ---------------------------------------------------------------------------
-- The layout
-- ---------------------------------------------------------------------------

/-- The positions index the layout of the stream: every key of every attribute is there and leads to
the attribute's place, and nothing else is there. -/
structure Positions.Indexes (p : Positions) (s : Stream) : Prop where
  /-- No pair of a key and its position is lost. -/
  entries_eq : p.entries = positionEntries s.placeholderKeys
  /-- Every attribute has a key, and those outside of the payload have two. -/
  length_eq : p.entries.length
    = s.attributes.length + s.attributes.countP fun a => a.group ≠ .payload
  keys_nodup : (Table.keys p.entries).Nodup
  lookup_eq_ok_iff : ∀ key v, p.lookup key = .ok v ↔
    ∃ (position : Nat) (a : Attribute) (name : Text), s.attributes[position]? = some a
      ∧ (name = a.key ∨ (a.group ≠ .payload ∧ name = a.name)) ∧ key = .text name
      ∧ v = .int position
  /-- A key denotes one attribute. -/
  answers_unique : ∀ a ∈ s.attributes, ∀ b ∈ s.attributes, ∀ name,
    a.AnswersTo name → b.AnswersTo name → a = b
  /-- The bare name leads to the same position as the key behind the lead of the group. -/
  lookup_name : ∀ a ∈ s.attributes, a.group ≠ .payload →
    p.lookup (.text a.name) = p.lookup (.text a.key)
  lookup_key_injective : ∀ a ∈ s.attributes, ∀ b ∈ s.attributes,
    p.lookup (.text a.key) = p.lookup (.text b.key) → a = b
  /-- Each position is the one that the key of some attribute leads to. -/
  lookup_key_surjective : ∀ position < s.attributes.length, ∃ a ∈ s.attributes,
    p.lookup (.text a.key) = .ok (.int position)

theorem Group.hasBareKey_iff {g : Group} : g.hasBareKey = true ↔ g ≠ .payload := by
  cases g <;> decide

theorem Attribute.answersTo_iff {a : Attribute} {name : Text} :
    a.AnswersTo name ↔ name = a.key ∨ (a.group ≠ .payload ∧ name = a.name) := by
  rw [AnswersTo, Group.hasBareKey_iff]

theorem Positions.indexes_ofStream {s : Stream} (h : s.Valid) : (ofStream s).Indexes s where
  entries_eq := entries_ofStream h
  length_eq := length_entries_ofStream h
  keys_nodup := nodup_keys_ofStream h
  lookup_eq_ok_iff := by
    intro key v
    rw [lookup_ofStream_eq_ok_iff h]
    simp only [Attribute.answersTo_iff]
  answers_unique := fun _ ha _ hb _ => eq_of_answersTo h ha hb
  lookup_name := by
    intro a ha hGroup
    obtain ⟨position, hPosition⟩ := List.mem_iff_getElem?.mp ha
    rw [lookup_ofStream_of_answersTo h hPosition (Attribute.answersTo_iff.mpr (.inr ⟨hGroup, rfl⟩)),
      lookup_ofStream_of_answersTo h hPosition a.answersTo_key]
  lookup_key_injective := fun a ha b hb => eq_of_lookup_eq h ha hb a.answersTo_key b.answersTo_key
  lookup_key_surjective := by
    intro position hBelow
    have ha := List.getElem?_eq_getElem hBelow
    exact ⟨_, List.getElem_mem hBelow,
      lookup_ofStream_of_answersTo h ha (Attribute.answersTo_key _)⟩

/-- The layout is what was declared, group by group. -/
theorem map_declared_attributes (s : Stream) :
    s.attributes.map Attribute.declared
      = s.declaration.metadata ++ s.declaration.correlation ++ s.declaration.payload := by
  rw [Stream.attributes_eq, List.map_append, List.map_append, List.map_map, List.map_map,
    List.map_map]
  rfl

/-- **The positions of an accepted stream index its layout**, which is made of the metadata, the
correlation and the payload as they were declared, one behind the other. -/
theorem Positions.indexes_of_accept {d : Declaration} {s : Stream} (hAccept : d.accept = .ok s) :
    (ofStream s).Indexes s
    ∧ s.attributes.map Attribute.declared = d.metadata ++ d.correlation ++ d.payload
    ∧ s.attributes.map Attribute.group = List.replicate d.metadata.length .metadata
      ++ List.replicate d.correlation.length .correlation
      ++ List.replicate d.payload.length .payload := by
  obtain ⟨rfl, hValid⟩ := accept_eq_ok_iff.mp hAccept
  refine ⟨indexes_ofStream hValid, map_declared_attributes s, ?_⟩
  rw [Stream.attributes_eq, List.map_append, List.map_append, List.map_map, List.map_map,
    List.map_map]
  simp only [Stream.declaration, List.length_map, Function.comp_def, List.map_const']

/-- A name of the payload may look like a key of the metadata. -/
theorem Positions.indexes_of_accept_tracked :
    Stream.trackedParcels.declaration.accept = .ok .trackedParcels
    ∧ (ofStream .trackedParcels).entries.length = 10
    ∧ (ofStream .trackedParcels).lookup (.text "meta_kg".toList) = .ok (.int 4)
    ∧ (ofStream .trackedParcels).lookup (.text "correlation_trip".toList)
      = (ofStream .trackedParcels).lookup (.text "trip".toList) := by
  have hAccept : Stream.trackedParcels.declaration.accept = .ok .trackedParcels := by rfl
  obtain ⟨hIndexes, -, -⟩ := indexes_of_accept hAccept
  refine ⟨hAccept, hIndexes.length_eq, ?_, ?_⟩
  · exact (hIndexes.lookup_eq_ok_iff _ _).mpr ⟨4, _, _, rfl, .inl rfl, rfl, rfl⟩
  · exact (hIndexes.lookup_name ⟨"trip".toList, .correlation⟩ (by decide) (by decide)).symm

end EventLoom
