import EventLoom.Stream.Positions

/-!
# What acceptance means

A declaration is checked attribute by attribute, and what comes before decides what may come next.
The stream that results can be described without that order (`Stream.Valid`): its name counts as
something, every attribute's name is a usable key, no name comes twice, and no two attributes
answer to one key. Accepting is the same as being valid.

The table of positions is made by writing one entry after the other, so that a later entry could
take the place of an earlier one. As the keys of a valid stream are all different, this never
happens: the table is the list of the stream's keys with their positions.

## Results

* `acceptNames_eq_ok_iff` — which names are accepted under a group.
* `accept_eq_ok_iff` — a declaration is accepted exactly if it declares a valid stream.
* `mem_placeholderKeys_iff` — which key stands for which position.
* `get?_ofStream_iff` — what the table of positions of a valid stream holds.
-/

namespace EventLoom

open Text

-- ---------------------------------------------------------------------------
-- Steps that can fail
-- ---------------------------------------------------------------------------

theorem bind_eq_ok_iff {ε α β : Type} {outcome : Except ε α} {f : α → Except ε β} {b : β} :
    (outcome >>= f) = .ok b ↔ ∃ a, outcome = .ok a ∧ f a = .ok b := by
  cases outcome with
  | error fault => simp [bind, Except.bind]
  | ok a => simp [bind, Except.bind]

theorem bind_eq_error_iff {ε α β : Type} {outcome : Except ε α} {f : α → Except ε β} {fault : ε} :
    (outcome >>= f) = .error fault ↔
      outcome = .error fault ∨ ∃ a, outcome = .ok a ∧ f a = .error fault := by
  cases outcome with
  | error fault' => simp [bind, Except.bind]
  | ok a => simp [bind, Except.bind]

-- ---------------------------------------------------------------------------
-- Names under a group
-- ---------------------------------------------------------------------------

/-- The name is not empty and reads back as a key. -/
def IsUsableName (name : Text) : Prop := name ≠ [] ∧ isPlaceholderSafe name = true

theorem keyName_text (t streamId : Text) :
    keyName (.text t) streamId =
      if isPlaceholderSafe t then .ok t else .error (.unsafeAttribute (.text t) streamId) := by
  rw [keyName, isSafeName]
  cases isPlaceholderSafe t <;> rfl

theorem acceptName_eq_ok_iff {streamId : Text} {listed : Group} {seen : List Text} {d : Declared}
    {t : Text} :
    acceptName streamId listed seen d = .ok t ↔
      d = ⟨.text t, listed⟩ ∧ IsUsableName t ∧ t ∉ seen := by
  constructor
  · intro h
    obtain ⟨rfl, hSeen⟩ := acceptName_eq_ok h
    refine ⟨rfl, ?_, hSeen⟩
    rw [acceptName, if_pos rfl] at h
    split at h
    · cases h
    · rename_i hTruthy
      obtain ⟨name, hName, -⟩ := bind_eq_ok_iff.mp h
      obtain ⟨hEq, hSafe⟩ := keyName_eq_ok hName
      cases hEq
      refine ⟨?_, hSafe⟩
      rintro rfl
      exact hTruthy rfl
  · rintro ⟨rfl, ⟨hNe, hSafe⟩, hSeen⟩
    have hTruthy : (Value.text t).isTruthy = true := by
      simp [Value.isTruthy, hNe]
    rw [acceptName, if_pos rfl, if_neg (by simp [hTruthy]), keyName_text, if_pos hSafe]
    show (if seen.contains t = true then _ else _) = _
    rw [if_neg (by simpa using hSeen)]

theorem acceptNames_eq_ok_iff {streamId : Text} {listed : Group} {seen : List Text}
    {list : List Declared} {names : List Text} :
    acceptNames streamId listed seen list = .ok names ↔
      list = names.map (⟨.text ·, listed⟩) ∧ (∀ t ∈ names, IsUsableName t) ∧ names.Nodup
        ∧ ∀ t ∈ names, t ∉ seen := by
  induction list generalizing seen names with
  | nil =>
    rw [acceptNames]
    constructor
    · intro h
      cases h
      simp
    · rintro ⟨h, -⟩
      rw [List.map_eq_nil_iff.mp h.symm]
  | cons d rest ih =>
    rw [acceptNames, bind_eq_ok_iff]
    constructor
    · rintro ⟨name, hName, h⟩
      obtain ⟨more, hMore, hEq⟩ := bind_eq_ok_iff.mp h
      cases hEq
      obtain ⟨rfl, hUsable, hSeen⟩ := acceptName_eq_ok_iff.mp hName
      obtain ⟨rfl, hUsables, hNodup, hLater⟩ := ih.mp hMore
      refine ⟨rfl, List.forall_mem_cons.mpr ⟨hUsable, hUsables⟩, ?_, ?_⟩
      · rw [List.nodup_cons]
        exact ⟨fun hIn => hLater name hIn (List.mem_cons_self ..), hNodup⟩
      · exact List.forall_mem_cons.mpr
          ⟨hSeen, fun t ht hIn => hLater t ht (List.mem_cons_of_mem _ hIn)⟩
    · rintro ⟨hList, hUsables, hNodup, hSeen⟩
      obtain ⟨name, more, rfl, rfl, rfl⟩ := List.map_eq_cons_iff.mp hList.symm
      obtain ⟨hUsable, hMoreUsable⟩ := List.forall_mem_cons.mp hUsables
      obtain ⟨hFresh, hMoreNodup⟩ := List.nodup_cons.mp hNodup
      obtain ⟨hNotSeen, hMoreSeen⟩ := List.forall_mem_cons.mp hSeen
      refine ⟨name, acceptName_eq_ok_iff.mpr ⟨rfl, hUsable, hNotSeen⟩, ?_⟩
      rw [bind_eq_ok_iff]
      refine ⟨more, ih.mpr ⟨rfl, hMoreUsable, hMoreNodup, ?_⟩, rfl⟩
      intro t ht
      rw [List.mem_cons, not_or]
      exact ⟨fun hEq => hFresh (hEq ▸ ht), hMoreSeen t ht⟩

theorem firstRepeated?_eq_none_iff {seen list : List Text} :
    firstRepeated? seen list = none ↔ list.Nodup ∧ ∀ t ∈ list, t ∉ seen := by
  induction list generalizing seen with
  | nil => simp [firstRepeated?]
  | cons t rest ih =>
    rw [firstRepeated?]
    by_cases hSeen : t ∈ seen
    · rw [if_pos hSeen]
      simp [hSeen]
    · rw [if_neg hSeen, ih, List.nodup_cons]
      constructor
      · rintro ⟨hNodup, hLater⟩
        refine ⟨⟨fun hIn => hLater t hIn (List.mem_cons_self ..), hNodup⟩, ?_⟩
        exact List.forall_mem_cons.mpr
          ⟨hSeen, fun u hu hIn => hLater u hu (List.mem_cons_of_mem _ hIn)⟩
      · rintro ⟨⟨hFresh, hNodup⟩, hAll⟩
        refine ⟨hNodup, ?_⟩
        intro u hu
        rw [List.mem_cons, not_or]
        exact ⟨fun hEq => hFresh (hEq ▸ hu), hAll u (List.mem_cons_of_mem _ hu)⟩

-- ---------------------------------------------------------------------------
-- Valid streams
-- ---------------------------------------------------------------------------

namespace Stream

/-- What acceptance promises of a stream. -/
structure Valid (s : Stream) : Prop where
  named : s.name.isTruthy = true
  names_usable : ∀ a ∈ s.attributes, IsUsableName a.name
  names_distinct : (s.attributes.map Attribute.name).Nodup
  keys_distinct : (s.placeholderKeys.map Prod.fst).Nodup

/-- The declaration that lists every attribute of the stream under its own group. -/
def declaration (s : Stream) : Declaration :=
  ⟨s.name, s.version, s.metadata.map (⟨.text ·, .metadata⟩),
    s.correlation.map (⟨.text ·, .correlation⟩), s.payload.map (⟨.text ·, .payload⟩)⟩

theorem map_name_attributes (s : Stream) :
    s.attributes.map Attribute.name = s.metadata ++ s.correlation ++ s.payload := by
  simp only [attributes_eq, List.map_append, List.map_map, Function.comp_def, List.map_id']

theorem names_usable_iff (s : Stream) :
    (∀ a ∈ s.attributes, IsUsableName a.name) ↔
      (∀ name ∈ s.metadata, IsUsableName name) ∧ (∀ name ∈ s.correlation, IsUsableName name)
        ∧ ∀ name ∈ s.payload, IsUsableName name := by
  have hNames : (∀ a ∈ s.attributes, IsUsableName a.name)
      ↔ ∀ name ∈ s.attributes.map Attribute.name, IsUsableName name := List.forall_mem_map.symm
  rw [hNames, map_name_attributes, List.forall_mem_append, List.forall_mem_append, and_assoc]

/-- All names are different if they are in each group, and none comes again in a later group. -/
theorem names_distinct_iff (s : Stream) :
    (s.attributes.map Attribute.name).Nodup ↔
      s.metadata.Nodup ∧ (s.correlation.Nodup ∧ ∀ t ∈ s.correlation, t ∉ s.metadata)
        ∧ s.payload.Nodup ∧ ∀ t ∈ s.payload, t ∉ s.metadata ++ s.correlation := by
  have hSeam : ∀ a b : List Text, (∀ t ∈ a, ∀ u ∈ b, t ≠ u) ↔ ∀ u ∈ b, u ∉ a := by
    intro a b
    constructor
    · exact fun h u hu hIn => h u hIn u hu rfl
    · rintro h t ht u hu rfl
      exact h t hu ht
  rw [map_name_attributes, List.nodup_append, List.nodup_append, hSeam, hSeam, and_assoc]

end Stream

/-- What has to succeed for a declaration to be accepted, step by step. -/
theorem accept_eq_ok_iff_steps {d : Declaration} {s : Stream} :
    d.accept = .ok s ↔
      (s.name = d.name ∧ s.version = d.version ∧ s.name.isTruthy = true)
        ∧ acceptNames s.id .metadata [] d.metadata = .ok s.metadata
        ∧ acceptNames s.id .correlation s.metadata d.correlation = .ok s.correlation
        ∧ acceptNames s.id .payload (s.metadata ++ s.correlation) d.payload = .ok s.payload
        ∧ firstRepeated? [] (s.placeholderKeys.map Prod.fst) = none := by
  rw [Declaration.accept]
  by_cases hTruthy : d.name.isTruthy = true
  · rw [if_neg (by simp [hTruthy])]
    constructor
    · intro h
      obtain ⟨metadata, hMetadata, h⟩ := bind_eq_ok_iff.mp h
      obtain ⟨correlation, hCorrelation, h⟩ := bind_eq_ok_iff.mp h
      obtain ⟨payload, hPayload, h⟩ := bind_eq_ok_iff.mp h
      dsimp only at h
      split at h
      · cases h
      · rename_i hKeys
        cases h
        exact ⟨⟨rfl, rfl, hTruthy⟩, hMetadata, hCorrelation, hPayload, hKeys⟩
    · obtain ⟨name, version, metadata, correlation, payload⟩ := s
      rintro ⟨⟨rfl, rfl, -⟩, hMetadata, hCorrelation, hPayload, hKeys⟩
      refine bind_eq_ok_iff.mpr ⟨metadata, hMetadata, ?_⟩
      refine bind_eq_ok_iff.mpr ⟨correlation, hCorrelation, ?_⟩
      refine bind_eq_ok_iff.mpr ⟨payload, hPayload, ?_⟩
      dsimp only
      rw [hKeys]
  · rw [if_pos (by simp [hTruthy])]
    constructor
    · intro h
      cases h
    · rintro ⟨⟨hName, -, hNamed⟩, -⟩
      exact absurd (hName ▸ hNamed) hTruthy

/-- **Acceptance is validity.** A declaration is accepted exactly if it declares a valid stream, and
that is the stream that it is accepted as. -/
theorem accept_eq_ok_iff {d : Declaration} {s : Stream} :
    d.accept = .ok s ↔ d = s.declaration ∧ s.Valid := by
  rw [accept_eq_ok_iff_steps, acceptNames_eq_ok_iff, acceptNames_eq_ok_iff, acceptNames_eq_ok_iff,
    firstRepeated?_eq_none_iff]
  constructor
  · rintro ⟨⟨hName, hVersion, hNamed⟩, ⟨hMetaList, hMetaUsable, hMetaNodup, -⟩,
      ⟨hCorrList, hCorrUsable, hCorr⟩, ⟨hPayList, hPayUsable, hPay⟩, hKeys, -⟩
    refine ⟨?_, hNamed, ?_, ?_, hKeys⟩
    · obtain ⟨name, version, metadata, correlation, payload⟩ := d
      dsimp only at hName hVersion hMetaList hCorrList hPayList
      rw [Stream.declaration, hName, hVersion, hMetaList, hCorrList, hPayList]
    · exact s.names_usable_iff.mpr ⟨hMetaUsable, hCorrUsable, hPayUsable⟩
    · exact s.names_distinct_iff.mpr ⟨hMetaNodup, hCorr, hPay⟩
  · rintro ⟨rfl, hNamed, hUsable, hDistinct, hKeys⟩
    obtain ⟨hMetaUsable, hCorrUsable, hPayUsable⟩ := s.names_usable_iff.mp hUsable
    obtain ⟨hMetaNodup, hCorr, hPay⟩ := s.names_distinct_iff.mp hDistinct
    exact ⟨⟨rfl, rfl, hNamed⟩, ⟨rfl, hMetaUsable, hMetaNodup, by simp⟩, ⟨rfl, hCorrUsable, hCorr⟩,
      ⟨rfl, hPayUsable, hPay⟩, hKeys, by simp⟩

theorem valid_of_accept {d : Declaration} {s : Stream} (h : d.accept = .ok s) : s.Valid :=
  (accept_eq_ok_iff.mp h).2

-- ---------------------------------------------------------------------------
-- Positions of keys
-- ---------------------------------------------------------------------------

/-- Every key of the stream, and only those, stands for the place of an attribute that answers to
it. -/
theorem mem_placeholderKeys_iff {s : Stream} {key : Text} {position : Nat} :
    (key, position) ∈ s.placeholderKeys ↔
      ∃ a, s.attributes[position]? = some a
        ∧ (key = a.key ∨ (a.group.hasBareKey = true ∧ key = a.name)) := by
  rw [Stream.placeholderKeys, Stream.keysOf, List.mem_append, List.mem_map, List.mem_map]
  constructor
  · rintro (⟨⟨a, i⟩, hMem, hEq⟩ | ⟨⟨a, i⟩, hMem, hEq⟩)
    · cases hEq
      exact ⟨a, List.mem_zipIdx_iff_getElem?.mp hMem, .inl rfl⟩
    · cases hEq
      obtain ⟨hAttribute, hBare⟩ := List.mem_filter.mp hMem
      exact ⟨a, List.mem_zipIdx_iff_getElem?.mp hAttribute, .inr ⟨hBare, rfl⟩⟩
  · rintro ⟨a, hAttribute, rfl | ⟨hBare, rfl⟩⟩
    · exact .inl ⟨(a, position), List.mem_zipIdx_iff_getElem?.mpr hAttribute, rfl⟩
    · refine .inr ⟨(a, position), List.mem_filter.mpr ⟨?_, hBare⟩, rfl⟩
      exact List.mem_zipIdx_iff_getElem?.mpr hAttribute

/-- A position that a key stands for is a place of the layout. -/
theorem lt_length_of_mem_placeholderKeys {s : Stream} {key : Text} {position : Nat}
    (h : (key, position) ∈ s.placeholderKeys) : position < s.attributes.length := by
  obtain ⟨a, hAttribute, -⟩ := mem_placeholderKeys_iff.mp h
  exact (List.getElem?_eq_some_iff.mp hAttribute).1

/-- The entries for some keys with their positions. -/
def positionEntries (list : List (Text × Nat)) : Entries :=
  list.map fun (key, position) => (.text key, .int position)

/-- Writing entries whose keys are all different puts each of them behind the others. -/
theorem merge_positionEntries {front list : List (Text × Nat)}
    (h : ((front ++ list).map Prod.fst).Nodup) :
    Table.merge (positionEntries front) (positionEntries list)
      = positionEntries (front ++ list) := by
  have hKeys : Table.keys (positionEntries front ++ positionEntries list)
      = ((front ++ list).map Prod.fst).map Key.text := by
    simp [Table.keys, positionEntries, Function.comp_def]
  rw [Table.merge_of_pairwise (hKeys ▸ Key.pairwise_text h)]
  exact List.map_append.symm

theorem get?_positionEntries {list : List (Text × Nat)} (h : (list.map Prod.fst).Nodup)
    {key : Text} {v : Value} :
    Table.get? (positionEntries list) (.text key) = some v ↔
      ∃ position, (key, position) ∈ list ∧ v = .int position := by
  induction list with
  | nil => simp [positionEntries]
  | cons entry rest ih =>
    obtain ⟨first, place⟩ := entry
    rw [List.map_cons, List.nodup_cons] at h
    have hRest := ih h.2
    rw [positionEntries, List.map_cons, Table.get?_cons, ← positionEntries]
    by_cases hKey : first = key
    · subst hKey
      rw [if_pos (Key.beq_text_iff first first |>.mpr rfl)]
      constructor
      · intro hEq
        cases hEq
        exact ⟨place, List.mem_cons_self .., rfl⟩
      · rintro ⟨position, hMem, rfl⟩
        rcases List.mem_cons.mp hMem with hHere | hLater
        · cases hHere
          rfl
        · exact absurd (List.mem_map.mpr ⟨_, hLater, rfl⟩) h.1
    · rw [if_neg (fun hBeq => hKey ((Key.beq_text_iff first key).mp hBeq)), hRest]
      constructor
      · rintro ⟨position, hMem, rfl⟩
        exact ⟨position, List.mem_cons_of_mem _ hMem, rfl⟩
      · rintro ⟨position, hMem, rfl⟩
        rcases List.mem_cons.mp hMem with hHere | hLater
        · cases hHere
          exact absurd rfl hKey
        · exact ⟨position, hLater, rfl⟩

/-- **The table of positions.** For a valid stream it holds every key with its position and nothing
else. -/
theorem get?_ofStream_iff {s : Stream} (h : s.Valid) {key : Text} {v : Value} :
    Table.get? (Positions.ofStream s).entries (.text key) = some v ↔
      ∃ position, (key, position) ∈ s.placeholderKeys ∧ v = .int position := by
  have hEntries : (Positions.ofStream s).entries = positionEntries s.placeholderKeys :=
    @merge_positionEntries [] s.placeholderKeys h.keys_distinct
  rw [hEntries, get?_positionEntries h.keys_distinct]

end EventLoom
