import EventLoom.Proofs.RenderSafety

/-!
# Rendering goes by attribute

A placeholder names an attribute by one of its keys, and the layout of the stream says where in an
event the attribute's value stands. The position is only the way to the value: what a placeholder
becomes is decided by the attribute that answers to its key and by the value that the event has for
that attribute (`Stream.valueOf?`). So a template means the same for any other stream that has the
attributes too, wherever they stand there and whatever else there is.

That no other attribute answers to a key of an attribute is what the stream's acceptance promises.
It has to hold again in the larger stream, where an added name may look like a key, such as
`meta_id` beside the metadata attribute `id`.

## Results

* `get?_ofStream_of_answersTo` — a key stands for the position of the attribute that answers to it.
* `fillPlaceholder_of_attribute` — a placeholder becomes the text of its attribute's value.
* `activate_custom_eq_ok_iff` — what a custom mapping needs of a stream.
* `render_of_attributes_subset` — a template renders alike for all streams with its attributes.
-/

namespace EventLoom

open Text

-- ---------------------------------------------------------------------------
-- Keys of an attribute
-- ---------------------------------------------------------------------------

/-- A placeholder with this key names the attribute: the key is the attribute's own or, outside of
the payload, its bare name. -/
def Attribute.AnswersTo (a : Attribute) (key : Text) : Prop :=
  key = a.key ∨ (a.group.hasBareKey = true ∧ key = a.name)

instance (a : Attribute) (key : Text) : Decidable (a.AnswersTo key) :=
  inferInstanceAs (Decidable (_ ∨ _))

theorem Attribute.answersTo_key (a : Attribute) : a.AnswersTo a.key := .inl rfl

namespace Stream

variable {s : Stream} {a : Attribute} {items : List Value}

theorem Valid.nodup_attributes (h : s.Valid) : s.attributes.Nodup :=
  List.Pairwise.of_map Attribute.name (fun _ _ hNames hSame => hNames (congrArg _ hSame))
    h.names_distinct

theorem getElem?_idxOf (ha : a ∈ s.attributes) :
    s.attributes[s.attributes.idxOf a]? = some a := by
  have hBelow := List.idxOf_lt_length_of_mem ha
  rw [List.getElem?_eq_getElem hBelow, List.getElem_idxOf hBelow]

/-- Every key of an attribute stands for the attribute's position, whatever other attributes there
are. -/
theorem get?_ofStream_of_answersTo (h : s.Valid) (ha : a ∈ s.attributes) {key : Text}
    (hKey : a.AnswersTo key) :
    Table.get? (Positions.ofStream s).entries (.text key) = some (.int (s.attributes.idxOf a)) := by
  refine (get?_ofStream_iff h).mpr ⟨s.attributes.idxOf a, ?_, rfl⟩
  exact mem_placeholderKeys_iff.mpr ⟨a, getElem?_idxOf ha, hKey⟩

/-- The keys that have positions are those that an attribute answers to. -/
theorem exists_get?_ofStream_iff (h : s.Valid) {key : Text} :
    (∃ v, Table.get? (Positions.ofStream s).entries (.text key) = some v) ↔
      ∃ a ∈ s.attributes, a.AnswersTo key := by
  constructor
  · rintro ⟨v, hGet⟩
    obtain ⟨position, hMem, -⟩ := (get?_ofStream_iff h).mp hGet
    obtain ⟨a, hAttribute, hKey⟩ := mem_placeholderKeys_iff.mp hMem
    exact ⟨a, List.mem_of_getElem? hAttribute, hKey⟩
  · rintro ⟨a, ha, hKey⟩
    exact ⟨_, get?_ofStream_of_answersTo h ha hKey⟩

-- ---------------------------------------------------------------------------
-- Values of an attribute
-- ---------------------------------------------------------------------------

/-- The value that an event of these items has for the attribute: the item at the attribute's
position in the layout. -/
def valueOf? (s : Stream) (items : List Value) (a : Attribute) : Option Value :=
  items[s.attributes.idxOf a]?

theorem valueOf?_of_getElem? (h : s.Valid) {position : Nat}
    (ha : s.attributes[position]? = some a) : s.valueOf? items a = items[position]? := by
  obtain ⟨hBelow, rfl⟩ := List.getElem?_eq_some_iff.mp ha
  rw [valueOf?, h.nodup_attributes.idxOf_getElem]

/-- An event with a value for every position has one for every attribute. -/
theorem exists_valueOf? (hLength : s.attributes.length ≤ items.length) (ha : a ∈ s.attributes) :
    ∃ v ∈ items, s.valueOf? items a = some v := by
  have hBelow : s.attributes.idxOf a < items.length :=
    Nat.lt_of_lt_of_le (List.idxOf_lt_length_of_mem ha) hLength
  exact ⟨items[s.attributes.idxOf a], List.getElem_mem hBelow, List.getElem?_eq_getElem hBelow⟩

end Stream

-- ---------------------------------------------------------------------------
-- Filling placeholders by attribute
-- ---------------------------------------------------------------------------

/-- **What a placeholder becomes** is the text of the value that the event has for the placeholder's
attribute. -/
theorem fillPlaceholder_of_attribute {s : Stream} (h : s.Valid) {event v : Value}
    {items : List Value} (hEvent : event.sequence? = some items) {a : Attribute}
    (ha : a ∈ s.attributes) {key : Text} (hKey : a.AnswersTo key)
    (hValue : s.valueOf? items a = some v) {policy : EmptyPolicy} :
    fillPlaceholder event items.length (Positions.ofStream s).entries policy key
      = formatValue v := by
  obtain ⟨hBelow, rfl⟩ := List.getElem?_eq_some_iff.mp hValue
  have hLength : items.length ≠ 0 := Nat.ne_of_gt (Nat.zero_lt_of_lt hBelow)
  rw [fillPlaceholder_of_position hLength (Stream.get?_ofStream_of_answersTo h ha hKey),
    if_pos hBelow, Value.item_of_sequence? hEvent hBelow]
  rfl

namespace Template

theorem renderHoles_congr {fill fill' : Text → Except Fault Text} {holes : List Hole}
    (h : ∀ hole ∈ holes, fill hole.key = fill' hole.key) :
    renderHoles fill holes = renderHoles fill' holes := by
  induction holes with
  | nil => rfl
  | cons hole rest ih =>
    obtain ⟨hHere, hRest⟩ := List.forall_mem_cons.mp h
    rw [renderHoles, renderHoles, hHere, ih hRest]

/-- Two events render alike if every placeholder becomes the same with both, or fails alike. -/
theorem render_congr {t : Template} {event event' : Value} {length length' : Nat}
    (hLength : event.length? = some length) (hLength' : event'.length? = some length')
    {positions positions' : Entries} {policy policy' : EmptyPolicy}
    (h : ∀ key ∈ t.keys, fillPlaceholder event length positions policy key
      = fillPlaceholder event' length' positions' policy' key) :
    t.render event positions policy = t.render event' positions' policy' := by
  rw [render, render, hLength, hLength']
  dsimp only
  rw [renderHoles_congr (List.forall_mem_map.mp h)]

end Template

-- ---------------------------------------------------------------------------
-- Custom mappings
-- ---------------------------------------------------------------------------

/-- **What a custom mapping needs of a stream**: its text compiles, and for every placeholder the
stream has an attribute that answers to the key. The stream has no other part in the template. -/
theorem activate_custom_eq_ok_iff {s : Stream} (hValid : s.Valid) {mapping : OutputMapping}
    (hCustom : mapping.isCustom = true) {read? : Option (Text → Except Fault Text)}
    {policy : EmptyPolicy} {m : Mapper} :
    (activate mapping s read? policy).result = .ok m ↔
      ∃ source t, mapping.customText read? = .ok source ∧ Template.compile source = .ok t
        ∧ (∀ key ∈ t.keys, ∃ a ∈ s.attributes, a.AnswersTo key)
        ∧ m = ⟨s.id, (Positions.ofStream s).entries, t, source, mapping.custom, policy⟩ := by
  have hKeys : ∀ t : Template, t.validate (Positions.ofStream s).entries (.text s.id) = .ok () ↔
      ∀ key ∈ t.keys, ∃ a ∈ s.attributes, a.AnswersTo key := by
    intro t
    rw [Template.validate_eq_ok_iff]
    exact forall₂_congr fun key _ => Stream.exists_get?_ofStream_iff hValid
  rw [activate_eq_ok_iff, templateText, hCustom, if_pos rfl]
  simp only [templateFor_custom_eq_ok_iff, hKeys, and_assoc]

/-- **A template means the same for every stream that has its attributes.** If a custom mapping is
activated for a stream, it is for every other stream that has the attributes of the first, in any
order and among any others. Two events, each as long as its stream's layout, that have the same
value for every attribute of the first stream are rendered alike. -/
theorem render_of_attributes_subset {d d' : Declaration} {s s' : Stream}
    (hAccept : d.accept = .ok s) (hAccept' : d'.accept = .ok s')
    (hSubset : s.attributes ⊆ s'.attributes) {mapping : OutputMapping}
    (hCustom : mapping.isCustom = true) {read? : Option (Text → Except Fault Text)}
    {policy policy' : EmptyPolicy} {m : Mapper}
    (hActive : (activate mapping s read? policy).result = .ok m) :
    ∃ m', (activate mapping s' read? policy').result = .ok m' ∧
      ∀ (event event' : Value) (items items' : List Value),
        event.sequence? = some items → event'.sequence? = some items' →
        items.length = s.attributes.length → items'.length = s'.attributes.length →
        (∀ a ∈ s.attributes, s.valueOf? items a = s'.valueOf? items' a) →
        m.render event = m'.render event' := by
  have hValid := valid_of_accept hAccept
  have hValid' := valid_of_accept hAccept'
  obtain ⟨source, t, hText, hCompile, hAnswers, rfl⟩ :=
    (activate_custom_eq_ok_iff hValid hCustom).mp hActive
  have hAnswers' : ∀ key ∈ t.keys, ∃ a ∈ s'.attributes, a.AnswersTo key := by
    intro key hKey
    obtain ⟨a, ha, hName⟩ := hAnswers key hKey
    exact ⟨a, hSubset ha, hName⟩
  refine ⟨_, (activate_custom_eq_ok_iff hValid' hCustom).mpr
    ⟨source, t, hText, hCompile, hAnswers', rfl⟩, ?_⟩
  intro event event' items items' hEvent hEvent' hLength hLength' hSame
  apply Template.render_congr (Value.length?_of_sequence? hEvent)
    (Value.length?_of_sequence? hEvent')
  intro key hKey
  -- both streams lead from the key to one and the same attribute
  obtain ⟨a, ha, hName⟩ := hAnswers key hKey
  obtain ⟨v, -, hValue⟩ := Stream.exists_valueOf? (Nat.le_of_eq hLength.symm) ha
  have hValue' : s'.valueOf? items' a = some v := (hSame a ha).symm.trans hValue
  rw [fillPlaceholder_of_attribute hValid hEvent ha hName hValue,
    fillPlaceholder_of_attribute hValid' hEvent' (hSubset ha) hName hValue']

/-- A stream of parcels. -/
def Stream.parcels : Stream :=
  ⟨.text "parcels".toList, .text "1".toList, ["id".toList, "at".toList], [], ["kg".toList]⟩

/-- The same stream later: its metadata in another order, and more attributes, one of which is named
as the key of a metadata attribute would be. -/
def Stream.trackedParcels : Stream :=
  ⟨.text "parcels".toList, .text "2".toList, ["at".toList, "lane".toList, "id".toList],
    ["trip".toList], ["meta_kg".toList, "kg".toList]⟩

/-- A template with both keys of one attribute and the key of another. -/
def parcelTemplate : Template :=
  ⟨"no. ".toList, [⟨"id".toList, "/".toList⟩, ⟨"meta_id".toList, [' ']⟩, ⟨"kg".toList, []⟩]⟩

/-- The mapping that has this template written in it. -/
def parcelMapping : OutputMapping :=
  ⟨.bool true, some (.inline (.text parcelTemplate.written)), .text OutputMapping.jsonType⟩

theorem render_of_attributes_subset_tracked :
    ∃ m m', (activate parcelMapping .parcels none .null).result = .ok m
      ∧ (activate parcelMapping .trackedParcels none .fail).result = .ok m'
      ∧ m.render (.list [.int 7, .null, .text "2.5".toList])
        = m'.render (.tuple [.null, .bool true, .int 7, .null, .null, .text "2.5".toList]) := by
  have hAccept : Stream.parcels.declaration.accept = .ok .parcels := by rfl
  have hAccept' : Stream.trackedParcels.declaration.accept = .ok .trackedParcels := by rfl
  have hText : parcelMapping.customText none = .ok parcelTemplate.written := by rfl
  have hOpen : ∀ literal ∈ parcelTemplate.literals, hasToken openToken literal = false := by decide
  have hClose : ∀ key ∈ parcelTemplate.keys, hasToken closeToken key = false := by decide
  have hCompile : Template.compile parcelTemplate.written = .ok parcelTemplate :=
    Template.compile_written ⟨rfl, fun l hl => hasToken_eq_false_iff.mp (hOpen l hl), by decide,
      fun k hk => hasToken_eq_false_iff.mp (hClose k hk), by decide⟩
  have hActive : (activate parcelMapping .parcels none .null).result = .ok _ :=
    (activate_custom_eq_ok_iff (valid_of_accept hAccept) rfl).mpr
      ⟨parcelTemplate.written, parcelTemplate, hText, hCompile, by decide, rfl⟩
  obtain ⟨m', hActive', hSame⟩ :=
    render_of_attributes_subset hAccept hAccept' (by decide) rfl hActive
  refine ⟨_, m', hActive, hActive', ?_⟩
  refine hSame _ _ _ _ rfl rfl rfl rfl ?_
  show ∀ a ∈ [Attribute.mk "id".toList .metadata, ⟨"at".toList, .metadata⟩,
    ⟨"kg".toList, .payload⟩], _
  simp only [List.forall_mem_cons]
  exact ⟨rfl, rfl, rfl, by simp⟩

end EventLoom
