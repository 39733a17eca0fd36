import EventLoom.Mapping.Record
import EventLoom.Proofs.Acceptance

/-!
# What a record keeps of a mapping

A mapping that is written as a record says of itself whether it is custom, of what type it is, and
what its source holds, whether the source is needed or not. Reading is stricter: the source is only
looked at if the mapping is custom. So the way through a record and back leaves a mapping as it is,
unless it has a source that it does not use (`isIdle`); such a source is lost, and nothing else is.

The record is written with words and read with them: the word for a flag reads back as the flag,
texts are their own text, and a record never holds two sources.

## Results

* `readSource_entries` — the source in a record is the one that was written.
* `ofRecord_toRecord` — what is read from a mapping's record, and when that is the mapping itself.
* `idle_source_lost` — a source that is not used does not come back.
-/

namespace EventLoom.OutputMapping

open Text

/-- The mapping says in plain words whether it is custom, and its source, if there is one, holds a
text. -/
structure Plain (m : OutputMapping) : Prop where
  custom_bool : ∃ enabled, m.custom = .bool enabled
  source_text : ∀ source, m.source = some source → ∃ t, source.content = .text t

/-- The mapping has a source that it does not use. -/
def isIdle (m : OutputMapping) : Bool := !m.isCustom && m.source.isSome

/-- The mapping without a source that it does not use. -/
def withoutIdle (m : OutputMapping) : OutputMapping :=
  { m with source := if m.isCustom then m.source else none }

theorem withoutIdle_of_custom {m : OutputMapping} (h : m.isCustom = true) : m.withoutIdle = m := by
  rw [withoutIdle, if_pos h]

theorem source_withoutIdle_of_default {m : OutputMapping} (h : m.isCustom = false) :
    m.withoutIdle.source = none := by
  simp [withoutIdle, h]

theorem withoutIdle_eq_self_iff {m : OutputMapping} : m.withoutIdle = m ↔ m.isIdle = false := by
  rcases hCustom : m.isCustom with _ | _
  · rw [isIdle, hCustom]
    constructor
    · intro h
      have hSource : m.source = none := by
        rw [← h]
        exact source_withoutIdle_of_default hCustom
      rw [hSource]
      rfl
    · intro h
      have hSource : m.source = none := by simpa using h
      rw [withoutIdle, hCustom, ← hSource]
      rfl
  · rw [isIdle, hCustom]
    exact iff_of_true (withoutIdle_of_custom hCustom) rfl

-- ---------------------------------------------------------------------------
-- The members of a record
-- ---------------------------------------------------------------------------

/-- The entries of a mapping's record. -/
def recordEntries (m : OutputMapping) : Entries :=
  m.toRecord.map fun (name, v) => (.text name, v)

theorem memberOf_customMapping (m : OutputMapping) :
    memberOf m.recordEntries "customMapping".toList = .text (flagWord m.isCustom) := by
  rfl

theorem get?_type (m : OutputMapping) :
    Table.get? m.recordEntries (.text "type".toList) = some m.type := by
  rfl

/-- **The source in a record** is the one that was written, if it holds a text. -/
theorem readSource_entries {m : OutputMapping}
    (hText : ∀ source, m.source = some source → ∃ t, source.content = .text t) :
    readSource m.recordEntries = .ok m.source := by
  obtain ⟨custom, source, type⟩ := m
  cases source with
  | none => rfl
  | some source =>
    obtain ⟨t, hContent⟩ := hText source rfl
    cases source with
    | inline content =>
      obtain rfl : content = .text t := hContent
      rfl
    | registry path =>
      obtain rfl : path = .text t := hContent
      rfl

-- ---------------------------------------------------------------------------
-- There and back
-- ---------------------------------------------------------------------------

/-- A mapping that is accepted still is without an idle source. -/
theorem check_withoutIdle {m : OutputMapping} (hCheck : m.check = .ok m) :
    m.withoutIdle.check = .ok m.withoutIdle := by
  rcases hCustom : m.isCustom with _ | _
  · have hIdle : m.withoutIdle.isCustom = false := hCustom
    refine (check_eq_ok_iff _).mpr ⟨((check_eq_ok_iff m).mp hCheck).1, ?_⟩
    rw [hIdle]
    exact nofun
  · rw [withoutIdle_of_custom hCustom]
    exact hCheck

/-- The members of a record are put together to the mapping without an idle source. -/
theorem ofRecord_of_check {m : OutputMapping} (hPlain : m.Plain) (hType : m.type = .text jsonType)
    (hCheck : m.withoutIdle.check = .ok m.withoutIdle) :
    ofRecord (Value.ofTable m.toRecord) = .ok m.withoutIdle := by
  have hFlag : readFlag (memberOf m.recordEntries "customMapping".toList) = .ok m.isCustom := by
    rw [memberOf_customMapping, readFlag_flagWord]
  have hWritten : ((Table.get? m.recordEntries (.text "type".toList)).getD (.text jsonType)).written
      = .ok jsonType := by
    rw [get?_type, hType]
    rfl
  have hSame : (⟨.bool m.isCustom, m.withoutIdle.source, .text jsonType⟩ : OutputMapping)
      = m.withoutIdle := by
    obtain ⟨enabled, hEnabled⟩ := hPlain.custom_bool
    have hCustom : (.bool m.isCustom : Value) = m.custom := by
      rw [isCustom, hEnabled]
      rfl
    rw [hCustom, ← hType]
    rfl
  refine bind_eq_ok_iff.mpr ⟨m.recordEntries, rfl, ?_⟩
  refine bind_eq_ok_iff.mpr ⟨m.isCustom, hFlag, ?_⟩
  refine bind_eq_ok_iff.mpr ⟨jsonType, hWritten, ?_⟩
  rw [← hSame] at hCheck ⊢
  rcases hCustom : m.isCustom with _ | _
  · rw [hCustom, source_withoutIdle_of_default hCustom] at hCheck
    rw [source_withoutIdle_of_default hCustom]
    exact hCheck
  · rw [hCustom, withoutIdle_of_custom hCustom] at hCheck
    rw [withoutIdle_of_custom hCustom]
    exact bind_eq_ok_iff.mpr ⟨m.source, readSource_entries hPlain.source_text, hCheck⟩

/-- **A record gives the mapping back** that was written, up to a source that the mapping does not
use. What is read is always accepted. It is the mapping that was written if and only if that one has
no idle source; otherwise it differs in having no source at all. -/
theorem ofRecord_toRecord {m : OutputMapping} (hPlain : m.Plain) (hCheck : m.check = .ok m) :
    ofRecord (Value.ofTable m.toRecord) = .ok m.withoutIdle
      ∧ (m.withoutIdle = m ↔ m.isIdle = false)
      ∧ (m.isIdle = true → m.withoutIdle = { m with source := none }) := by
  have hType := ((check_eq_ok_iff m).mp hCheck).1
  refine ⟨ofRecord_of_check hPlain hType (check_withoutIdle hCheck), withoutIdle_eq_self_iff, ?_⟩
  intro hIdle
  have hDefault : m.isCustom = false := by
    rw [isIdle, Bool.and_eq_true] at hIdle
    simpa using hIdle.1
  rw [withoutIdle, hDefault]
  rfl

/-- A custom mapping comes back with its source, and white space in it as it was. -/
theorem ofRecord_toRecord_registry :
    ∃ m : OutputMapping, m.Plain ∧ m.check = .ok m
      ∧ ofRecord (Value.ofTable m.toRecord) = .ok m := by
  have hPlain : Plain ⟨.bool true, some (.registry (.text " a.json".toList)), .text jsonType⟩ :=
    ⟨⟨true, rfl⟩, fun source hSource => ⟨" a.json".toList, by cases hSource; rfl⟩⟩
  obtain ⟨hBack, hSame, -⟩ := ofRecord_toRecord hPlain rfl
  rw [hSame.mpr rfl] at hBack
  exact ⟨_, hPlain, rfl, hBack⟩

/-- The source of a mapping that is not custom is written, but not read. -/
theorem idle_source_lost :
    ∃ m : OutputMapping, m.Plain ∧ m.check = .ok m
      ∧ ofRecord (Value.ofTable m.toRecord) ≠ .ok m := by
  have hPlain : Plain ⟨.bool false, some (.inline (.text "x".toList)), .text jsonType⟩ :=
    ⟨⟨false, rfl⟩, fun source hSource => ⟨"x".toList, by cases hSource; rfl⟩⟩
  refine ⟨_, hPlain, rfl, ?_⟩
  have hRead : ofRecord (Value.ofTable (toRecord ⟨.bool false, some (.inline (.text "x".toList)),
      .text jsonType⟩)) = .ok ⟨.bool false, none, .text jsonType⟩ := by rfl
  rw [hRead]
  intro hSame
  cases hSame

end EventLoom.OutputMapping
