import EventLoom.Mapping.Activation
import EventLoom.Proofs.DefaultTemplate

/-!
# Rendering with an active mapper

A mapper is only made by an activation, and an activation lets a template pass only if each of its
keys has a position in the layout of the stream. A custom template is checked for this; a
default template is not, but its keys are those of the stream. Either way the mapper is `Bound` to
the layout, and rendering depends on nothing else: it does not matter any more where the template
came from.

With a bound mapper, rendering can only fail because of the event: it has no values, it is too short
for some position, or it holds something that has no text. An event that is long enough always
renders, and an item is never looked for where there is none. That an event is too short is told
with the position; it takes a stream with more attributes than there are numbers that can be written
for this not to be told.

## Results

* `bound_of_activate` — an activation makes bound mappers only.
* `renderHoles_eq_ok_iff`, `renderHoles_eq_error` — rendering goes placeholder by placeholder.
* `render_sequence_eq_ok_iff` — which lists and tuples are rendered by a bound mapper.
* `render_error_cases` — how rendering can fail for any event at all.
* `render_of_activate` — both of these for every mapper that an activation makes.
-/

namespace EventLoom

open Text

-- ---------------------------------------------------------------------------
-- Bound mappers
-- ---------------------------------------------------------------------------

namespace Mapper

/-- Every key of the template has a position in the layout of the stream. -/
structure Bound (m : Mapper) (s : Stream) : Prop where
  positions_eq : m.positions = (Positions.ofStream s).entries
  keys_placed : ∀ key ∈ m.template.keys, ∃ position < s.attributes.length,
    Table.get? m.positions (.text key) = some (.int position)

/-- An event of the given length has a value at every position that the template asks for. -/
def Covers (m : Mapper) (length : Nat) : Prop :=
  ∀ key ∈ m.template.keys, ∀ position : Nat,
    Table.get? m.positions (.text key) = some (.int position) → position < length

/-- Events with a value for every attribute have one at every position. -/
theorem Bound.covers {m : Mapper} {s : Stream} (h : m.Bound s) {length : Nat}
    (hLength : s.attributes.length ≤ length) : m.Covers length := by
  intro key hKey position hPosition
  obtain ⟨place, hPlace, hGet⟩ := h.keys_placed key hKey
  rw [hGet, Option.some.injEq, Value.int.injEq] at hPosition
  omega

end Mapper

/-- What the check of a template asks for is what it takes to be bound. -/
theorem exists_position_of_validate {s : Stream} (hValid : s.Valid) {t : Template}
    {streamId : Value} (h : t.validate (Positions.ofStream s).entries streamId = .ok ()) :
    ∀ key ∈ t.keys, ∃ position < s.attributes.length,
      Table.get? (Positions.ofStream s).entries (.text key) = some (.int position) := by
  intro key hKey
  obtain ⟨v, hGet⟩ := Template.validate_eq_ok_iff.mp h key hKey
  obtain ⟨position, hMem, rfl⟩ := (get?_ofStream_iff hValid).mp hGet
  exact ⟨position, lt_length_of_mem_placeholderKeys hMem, hGet⟩

/-- A custom template is taken if it compiles and passes the check. -/
theorem templateFor_custom_eq_ok_iff {s : Stream} {source : Text} {t : Template} :
    templateFor s true source = .ok t ↔
      Template.compile source = .ok t
        ∧ t.validate (Positions.ofStream s).entries (.text s.id) = .ok () := by
  rw [templateFor, bind_eq_ok_iff]
  constructor
  · rintro ⟨compiled, hCompile, h⟩
    obtain ⟨_, hChecked, hSame⟩ := bind_eq_ok_iff.mp h
    cases hSame
    exact ⟨hCompile, hChecked⟩
  · rintro ⟨hCompile, hChecked⟩
    exact ⟨t, hCompile, bind_eq_ok_iff.mpr ⟨(), hChecked, rfl⟩⟩

theorem validate_of_templateFor {s : Stream} (hValid : s.Valid) {custom : Bool} {source : Text}
    {t : Template} (hSource : custom = false → source = s.defaultTemplate)
    (h : templateFor s custom source = .ok t) :
    t.validate (Positions.ofStream s).entries (.text s.id) = .ok () := by
  cases custom with
  | true => exact (templateFor_custom_eq_ok_iff.mp h).2
  | false =>
    -- nothing was checked, but the check would have passed
    rw [templateFor, hSource rfl, Stream.compile_defaultTemplate hValid] at h
    cases h
    exact Stream.validate_eventTemplate hValid _

/-- An activation succeeds if there is a text and a template comes of it; then the mapper is made of
that template and of the stream's positions. -/
theorem activate_eq_ok_iff {mapping : OutputMapping} {s : Stream}
    {read? : Option (Text → Except Fault Text)} {policy : EmptyPolicy} {m : Mapper} :
    (activate mapping s read? policy).result = .ok m ↔
      ∃ source t, templateText mapping s read? = .ok source
        ∧ templateFor s mapping.isCustom source = .ok t
        ∧ m = ⟨s.id, (Positions.ofStream s).entries, t, source, mapping.custom, policy⟩ := by
  rw [activate]
  constructor
  · intro h
    split at h
    · rw [Activation.withoutText] at h
      split at h <;> cases h
    · rename_i source hText
      split at h
      · cases h
      · rename_i t hTemplate
        cases h
        exact ⟨source, t, hText, hTemplate, rfl⟩
  · rintro ⟨source, t, hText, hTemplate, rfl⟩
    simp only [hText, hTemplate]

/-- **An activation makes bound mappers only**, out of custom mappings and of others. -/
theorem bound_of_activate {mapping : OutputMapping} {s : Stream}
    {read? : Option (Text → Except Fault Text)} {policy : EmptyPolicy} {m : Mapper}
    (hValid : s.Valid) (h : (activate mapping s read? policy).result = .ok m) :
    m.Bound s ∧ m.emptyPolicy = policy := by
  obtain ⟨source, t, hText, hTemplate, rfl⟩ := activate_eq_ok_iff.mp h
  have hSource : mapping.isCustom = false → source = s.defaultTemplate := by
    intro hDefault
    rw [templateText, hDefault] at hText
    cases hText
    rfl
  have hChecked := validate_of_templateFor hValid hSource hTemplate
  exact ⟨⟨rfl, exists_position_of_validate hValid hChecked⟩, rfl⟩

/-- A mapping that is not custom is taken by every valid stream. -/
theorem activate_default {mapping : OutputMapping} {s : Stream}
    {read? : Option (Text → Except Fault Text)} {policy : EmptyPolicy} (hValid : s.Valid)
    (hDefault : mapping.isCustom = false) :
    (activate mapping s read? policy).result =
      .ok ⟨s.id, (Positions.ofStream s).entries, eventTemplate s.names, s.defaultTemplate,
        mapping.custom, policy⟩ := by
  refine activate_eq_ok_iff.mpr ⟨s.defaultTemplate, eventTemplate s.names, ?_, ?_, rfl⟩
  · rw [templateText, hDefault]
    rfl
  · rw [hDefault, templateFor, Stream.compile_defaultTemplate hValid]
    rfl

-- ---------------------------------------------------------------------------
-- Placeholder by placeholder
-- ---------------------------------------------------------------------------

namespace Template

variable {fill : Text → Except Fault Text}

theorem renderHoles_eq_ok_iff {holes : List Hole} :
    (∃ t, renderHoles fill holes = .ok t) ↔ ∀ hole ∈ holes, ∃ t, fill hole.key = .ok t := by
  induction holes with
  | nil => simp [renderHoles]
  | cons hole rest ih =>
    rw [List.forall_mem_cons, ← ih, renderHoles]
    constructor
    · rintro ⟨t, h⟩
      obtain ⟨filled, hFilled, h⟩ := bind_eq_ok_iff.mp h
      obtain ⟨more, hMore, -⟩ := bind_eq_ok_iff.mp h
      exact ⟨⟨filled, hFilled⟩, more, hMore⟩
    · rintro ⟨⟨filled, hFilled⟩, more, hMore⟩
      refine ⟨filled ++ hole.tail ++ more, bind_eq_ok_iff.mpr ⟨filled, hFilled, ?_⟩⟩
      exact bind_eq_ok_iff.mpr ⟨more, hMore, rfl⟩

/-- A fault in rendering is the fault of some placeholder. -/
theorem renderHoles_eq_error {holes : List Hole} {fault : Fault}
    (h : renderHoles fill holes = .error fault) :
    ∃ hole ∈ holes, fill hole.key = .error fault := by
  induction holes with
  | nil => cases h
  | cons hole rest ih =>
    rw [renderHoles] at h
    rcases bind_eq_error_iff.mp h with hHere | ⟨filled, -, h⟩
    · exact ⟨hole, List.mem_cons_self .., hHere⟩
    · rcases bind_eq_error_iff.mp h with hLater | ⟨more, -, h⟩
      · obtain ⟨later, hMem, hFault⟩ := ih hLater
        exact ⟨later, List.mem_cons_of_mem _ hMem, hFault⟩
      · cases h

variable {t : Template} {values : Value} {length : Nat} {positions : Entries} {policy : EmptyPolicy}

theorem render_eq_ok_iff (hLength : values.length? = some length) :
    (∃ text, t.render values positions policy = .ok text) ↔
      ∀ key ∈ t.keys, ∃ text, fillPlaceholder values length positions policy key = .ok text := by
  rw [TemplateOf.keys, List.forall_mem_map, ← renderHoles_eq_ok_iff, render, hLength]
  constructor
  · rintro ⟨text, h⟩
    obtain ⟨rest, hRest, -⟩ := bind_eq_ok_iff.mp h
    exact ⟨rest, hRest⟩
  · rintro ⟨rest, hRest⟩
    exact ⟨t.lead ++ rest, bind_eq_ok_iff.mpr ⟨rest, hRest, rfl⟩⟩

/-- Rendering fails because the event is no sequence, or because of a placeholder. -/
theorem render_eq_error {fault : Fault} (h : t.render values positions policy = .error fault) :
    (values.length? = none ∧ fault = .wrongType) ∨
      ∃ length, values.length? = some length
        ∧ ∃ key ∈ t.keys, fillPlaceholder values length positions policy key = .error fault := by
  rw [render] at h
  split at h
  · rename_i hLength
    cases h
    exact .inl ⟨hLength, rfl⟩
  · rename_i length hLength
    rcases bind_eq_error_iff.mp h with hHoles | ⟨rest, -, h⟩
    · obtain ⟨hole, hMem, hFault⟩ := renderHoles_eq_error hHoles
      exact .inr ⟨length, hLength, hole.key, List.mem_map.mpr ⟨hole, hMem, rfl⟩, hFault⟩
    · cases h

end Template

-- ---------------------------------------------------------------------------
-- Sequences
-- ---------------------------------------------------------------------------

namespace Value

variable {event : Value} {items : List Value}

theorem length?_of_sequence? (h : event.sequence? = some items) :
    event.length? = some items.length := by
  cases event with
  | text t =>
    cases h
    rw [length?, ofChars, List.length_map]
  | bytes b =>
    cases h
    rw [length?, ofBytes, List.length_map]
  | list _ =>
    cases h
    rfl
  | tuple _ =>
    cases h
    rfl
  | _ => cases h

theorem item_of_sequence? (h : event.sequence? = some items) {position : Nat}
    (hBelow : position < items.length) : event.item (.int position) = .ok items[position] := by
  cases event with
  | text t =>
    cases h
    exact item_eq_ok_of_lt hBelow
  | bytes b =>
    cases h
    exact item_eq_ok_of_lt hBelow
  | list _ =>
    cases h
    exact item_eq_ok_of_lt hBelow
  | tuple _ =>
    cases h
    exact item_eq_ok_of_lt hBelow
  | _ => cases h

end Value

-- ---------------------------------------------------------------------------
-- One placeholder
-- ---------------------------------------------------------------------------

/-- The fault is one of rendering and names the key of the placeholder that it is about. -/
def Fault.IsRenderFault (fault : Fault) (key : Text) : Prop :=
  ∃ message index, fault.problem? = some ⟨.render message (.text key) index, .null, none⟩

/-- The fault is that an event of the given length does not fill the placeholder: the event has no
values, or the placeholder stands for a position behind its end, which is then told. -/
def Fault.IsUnfilled (fault : Fault) (length position : Nat) (key : Text) : Prop :=
  (length = 0 ∧ fault = .emptyEvent key)
    ∨ length ≤ position
      ∧ fault = (Value.int position).telling (.shortEvent length key (.int position))

/-- It is told if the position can be written. -/
theorem Fault.IsUnfilled.isRenderFault {fault : Fault} {length position : Nat} {key : Text}
    (h : fault.IsUnfilled length position key)
    (hWritten : position < Number.tenTo Number.digitLimit) : fault.IsRenderFault key := by
  have hText : (Value.int position).hasText = true := Number.fitsText_iff.mpr hWritten
  rcases h with ⟨-, rfl⟩ | ⟨-, rfl⟩
  · exact ⟨_, _, rfl⟩
  · rw [Value.telling_of_hasText hText]
    exact ⟨_, _, rfl⟩

section Placeholder

variable {values : Value} {length position : Nat} {positions : Entries} {policy : EmptyPolicy}
  {key : Text}

theorem fillPlaceholder_of_empty :
    fillPlaceholder values 0 positions policy key =
      match policy with
      | .null => .ok nullToken
      | .fail => .error (.emptyEvent key) := by
  cases policy <;> rfl

theorem fillPlaceholder_of_position (hLength : length ≠ 0)
    (hPosition : Table.get? positions (.text key) = some (.int position)) :
    fillPlaceholder values length positions policy key =
      if position < length then values.item (.int position) >>= formatValue
      else .error ((Value.int position).telling (.shortEvent length key (.int position))) := by
  unfold fillPlaceholder
  rw [if_neg hLength, hPosition]
  simp only [Value.isBelow, bind, Except.bind, decide_eq_true_eq, Int.ofNat_lt]
  congr

/-- At a position inside of the event there is an item, unless the event is a table, which is asked
for a key instead. -/
theorem item_of_lt (hLength : values.length? = some length) (hBelow : position < length) :
    (∃ v, values.item (.int position) = .ok v)
      ∨ ∃ k, values.item (.int position) = .error (.absentKey k) := by
  have hItem : ∀ {items : List Value}, values.sequence? = some items →
      ∃ v, values.item (.int position) = .ok v := by
    intro items hItems
    rw [Value.length?_of_sequence? hItems, Option.some.injEq] at hLength
    exact ⟨_, Value.item_of_sequence? hItems (hLength ▸ hBelow)⟩
  cases values with
  | text t => exact .inl (hItem rfl)
  | bytes b => exact .inl (hItem rfl)
  | list items => exact .inl (hItem rfl)
  | tuple items => exact .inl (hItem rfl)
  | dict entries =>
    -- the position is taken for a key, whatever the number of entries
    show (∃ v, Value.ofEntry entries (.int position) = .ok v)
      ∨ ∃ k, Value.ofEntry entries (.int position) = .error (.absentKey k)
    rw [Value.ofEntry]
    split
    · rename_i v _
      exact .inl ⟨v, rfl⟩
    · exact .inr ⟨_, rfl⟩
  | _ => cases hLength

theorem formatValue_eq_error {v : Value} {fault : Fault} (h : formatValue v = .error fault) :
    fault = .unwritableInteger := by
  have hWritten : ∀ v : Value, v.written = .error fault → fault = .unwritableInteger := by
    intro v h
    rw [Value.written] at h
    split at h
    · cases h
    · cases h
      rfl
  cases v with
  | text t => cases h
  | null => cases h
  | bool b => cases h
  | _ => exact hWritten _ h

theorem exists_text_of_null (n : Nat) :
    ∀ v ∈ List.replicate n Value.null, ∃ t, formatValue v = .ok t := by
  intro v hv
  rw [List.eq_of_mem_replicate hv]
  exact ⟨nullToken, rfl⟩

/-- A value that is there can be missing in a table only, and otherwise it can have no text. -/
theorem value_error_cases {fault : Fault} (hLength : values.length? = some length)
    (hBelow : position < length)
    (h : (values.item (.int position) >>= formatValue) = .error fault) :
    (∃ k, fault = .absentKey k) ∨ fault = .unwritableInteger := by
  rcases item_of_lt hLength hBelow with ⟨v, hItem⟩ | ⟨k, hItem⟩
  · rw [hItem] at h
    exact .inr (formatValue_eq_error h)
  · rw [hItem] at h
    cases h
    exact .inl ⟨k, rfl⟩

/-- A placeholder that has a position fails because the event is too short for it, or because of the
value at that position. -/
theorem fillPlaceholder_eq_error {fault : Fault}
    (hPosition : Table.get? positions (.text key) = some (.int position))
    (h : fillPlaceholder values length positions policy key = .error fault) :
    fault.IsUnfilled length position key
      ∨ (position < length ∧ (values.item (.int position) >>= formatValue) = .error fault) := by
  by_cases hEmpty : length = 0
  · subst hEmpty
    rw [fillPlaceholder_of_empty] at h
    cases policy with
    | null => cases h
    | fail =>
      cases h
      exact .inl (.inl ⟨rfl, rfl⟩)
  · rw [fillPlaceholder_of_position hEmpty hPosition] at h
    split at h
    · rename_i hBelow
      exact .inr ⟨hBelow, h⟩
    · rename_i hBehind
      cases h
      exact .inl (.inr ⟨Nat.le_of_not_lt hBehind, rfl⟩)

end Placeholder

-- ---------------------------------------------------------------------------
-- Lists and tuples
-- ---------------------------------------------------------------------------

/-- The event is a list or a tuple of the given items. -/
def Value.IsSequenceOf (event : Value) (items : List Value) : Prop :=
  event = .list items ∨ event = .tuple items

namespace Value.IsSequenceOf

variable {event : Value} {items : List Value}

theorem sequence?_eq (h : event.IsSequenceOf items) : event.sequence? = some items := by
  rcases h with rfl | rfl <;> rfl

theorem length?_eq (h : event.IsSequenceOf items) : event.length? = some items.length :=
  length?_of_sequence? h.sequence?_eq

theorem exists_text_of_lt (h : event.IsSequenceOf items)
    (hTexts : ∀ v ∈ items, ∃ t, formatValue v = .ok t) {position : Nat}
    (hBelow : position < items.length) :
    ∃ t, (event.item (.int position) >>= formatValue) = .ok t := by
  obtain ⟨t, ht⟩ := hTexts items[position] (List.getElem_mem hBelow)
  exact ⟨t, bind_eq_ok_iff.mpr ⟨_, item_of_sequence? h.sequence?_eq hBelow, ht⟩⟩

end Value.IsSequenceOf

-- ---------------------------------------------------------------------------
-- Bound mappers and events
-- ---------------------------------------------------------------------------

/-- The fault is one that an event can bring about by itself: it is no sequence, a value of it has
no text, it is a table without the key, or it does not fill a placeholder. -/
def Fault.IsOfEvent : Fault → Prop
  | .wrongType | .unwritableInteger | .absentKey _ | .emptyEvent _ | .shortEvent .. => True
  | _ => False

theorem Fault.IsUnfilled.isOfEvent {fault : Fault} {length position : Nat} {key : Text}
    (h : fault.IsUnfilled length position key) : fault.IsOfEvent := by
  rcases h with ⟨-, rfl⟩ | ⟨-, rfl⟩
  · trivial
  · rcases Value.telling_eq_or (.int position) (.shortEvent length key (.int position)) with h | h
    · rw [h]
      trivial
    · rw [h]
      trivial

namespace Mapper

variable {m : Mapper} {s : Stream} (hBound : m.Bound s)
include hBound

/-- **How rendering can fail** with a bound mapper, whatever the event is. -/
theorem render_error_cases {event : Value} {fault : Fault} (h : m.render event = .error fault) :
    fault = .wrongType ∨ fault = .unwritableInteger ∨ (∃ k, fault = .absentKey k)
      ∨ ∃ length, ∃ key ∈ m.template.keys, ∃ position, fault.IsUnfilled length position key := by
  rcases Template.render_eq_error h with ⟨-, rfl⟩ | ⟨length, hLength, key, hKey, hFill⟩
  · exact .inl rfl
  · obtain ⟨position, -, hPosition⟩ := hBound.keys_placed key hKey
    rcases fillPlaceholder_eq_error hPosition hFill with hUnfilled | ⟨hBelow, hValue⟩
    · exact .inr (.inr (.inr ⟨length, key, hKey, position, hUnfilled⟩))
    · rcases value_error_cases hLength hBelow hValue with hAbsent | hText
      · exact .inr (.inr (.inl hAbsent))
      · exact .inr (.inl hText)

theorem Bound.isOfEvent_of_render {event : Value} {fault : Fault}
    (h : m.render event = .error fault) : fault.IsOfEvent := by
  rcases render_error_cases hBound h with rfl | rfl | ⟨k, rfl⟩ | ⟨length, key, -, _, hUnfilled⟩
  · trivial
  · trivial
  · trivial
  · exact hUnfilled.isOfEvent

section Sequence

variable {event : Value} {items : List Value} (hEvent : event.IsSequenceOf items)
  (hTexts : ∀ v ∈ items, ∃ t, formatValue v = .ok t)
include hEvent hTexts

/-- **Which events render.** An event without values renders if its policy says so or there is
nothing to fill; any other event renders exactly if it is long enough for every position. -/
theorem render_sequence_eq_ok_iff :
    (∃ t, m.render event = .ok t) ↔
      (items = [] ∧ (m.emptyPolicy = .null ∨ m.template.hasPlaceholders = false))
        ∨ (items ≠ [] ∧ m.Covers items.length) := by
  have hLength := hEvent.length?_eq
  rw [render, Template.render_eq_ok_iff hLength]
  by_cases hItems : items = []
  · -- no placeholder looks at the values, so all of them fail or none
    subst hItems
    have hPlaceholders : m.template.hasPlaceholders = false ↔ m.template.keys = [] := by
      simp [TemplateOf.hasPlaceholders, TemplateOf.keys]
    simp only [List.length_nil, fillPlaceholder_of_empty, hPlaceholders]
    cases hPolicy : m.emptyPolicy with
    | null => simp
    | fail => simp [List.eq_nil_iff_forall_not_mem]
  · -- a resolved key can only fail by lying behind the end
    have hPos : items.length ≠ 0 := by simpa using hItems
    simp only [hItems, false_and, false_or, ne_eq, not_false_eq_true, true_and]
    constructor
    · intro h key hKey position hPosition
      obtain ⟨t, ht⟩ := h key hKey
      rw [fillPlaceholder_of_position hPos hPosition] at ht
      split at ht
      · assumption
      · cases ht
    · intro h key hKey
      obtain ⟨position, -, hPosition⟩ := hBound.keys_placed key hKey
      rw [fillPlaceholder_of_position hPos hPosition, if_pos (h key hKey position hPosition)]
      exact hEvent.exists_text_of_lt hTexts (h key hKey position hPosition)

/-- An event whose values all have a text can only fail to fill a placeholder. -/
theorem render_sequence_eq_error {fault : Fault} (h : m.render event = .error fault) :
    ∃ key ∈ m.template.keys, ∃ position < s.attributes.length,
      fault.IsUnfilled items.length position key := by
  rcases Template.render_eq_error h with ⟨hNone, -⟩ | ⟨length, hLength, key, hKey, hFill⟩
  · rw [hEvent.length?_eq] at hNone
    cases hNone
  · rw [hEvent.length?_eq] at hLength
    cases hLength
    obtain ⟨position, hPlaced, hPosition⟩ := hBound.keys_placed key hKey
    refine ⟨key, hKey, position, hPlaced, ?_⟩
    rcases fillPlaceholder_eq_error hPosition hFill with hUnfilled | ⟨hBelow, hValue⟩
    · exact hUnfilled
    · obtain ⟨t, hText⟩ := hEvent.exists_text_of_lt hTexts hBelow
      rw [hText] at hValue
      cases hValue

end Sequence

end Mapper

/-- **Rendering is safe with every mapper that an activation makes**, for custom mappings and for
others. Every key of the template has a position in the layout of the stream. A list or tuple whose
values all have a text is rendered exactly if it has no values and then the policy is null or there
are no placeholders, or if it has some and is long enough for every position; a fault in it is one
of rendering and names a key of the template. For this a position has to be written, as each one can
be unless the stream has more attributes than the largest number that is written, which is far more
than any list holds. No event at all meets a key that has no position, or is asked for an item
behind its end. -/
theorem render_of_activate {d : Declaration} {s : Stream} (hAccept : d.accept = .ok s)
    {mapping : OutputMapping} {read? : Option (Text → Except Fault Text)} {policy : EmptyPolicy}
    {m : Mapper} (hActive : (activate mapping s read? policy).result = .ok m) :
    m.positions = (Positions.ofStream s).entries
    ∧ (∀ key ∈ m.template.keys, ∃ position < s.attributes.length,
      Table.get? m.positions (.text key) = some (.int position))
    ∧ (∀ (event : Value) (items : List Value), event.IsSequenceOf items →
      (∀ v ∈ items, ∃ t, formatValue v = .ok t) →
        ((∃ t, m.render event = .ok t) ↔
          (items = [] ∧ (policy = .null ∨ m.template.hasPlaceholders = false))
            ∨ (items ≠ [] ∧ m.Covers items.length))
        ∧ (items ≠ [] → s.attributes.length ≤ items.length → ∃ t, m.render event = .ok t)
        ∧ ∀ fault, m.render event = .error fault →
          ∃ key ∈ m.template.keys, ∃ position < s.attributes.length,
            fault.IsUnfilled items.length position key
            ∧ (s.attributes.length ≤ Number.tenTo Number.digitLimit → fault.IsRenderFault key))
    ∧ ∀ event : Value, (∀ key, m.render event ≠ .error (.unboundKey key))
      ∧ m.render event ≠ .error .outOfRange := by
  obtain ⟨hBound, rfl⟩ := bound_of_activate (valid_of_accept hAccept) hActive
  refine ⟨hBound.positions_eq, hBound.keys_placed, ?_, ?_⟩
  · intro event items hEvent hTexts
    have hIff := Mapper.render_sequence_eq_ok_iff hBound hEvent hTexts
    refine ⟨hIff, ?_, ?_⟩
    · intro hItems hLength
      exact hIff.mpr (.inr ⟨hItems, hBound.covers hLength⟩)
    · intro fault hFault
      obtain ⟨key, hKey, position, hPlaced, hUnfilled⟩ :=
        Mapper.render_sequence_eq_error hBound hEvent hTexts hFault
      refine ⟨key, hKey, position, hPlaced, hUnfilled, ?_⟩
      intro hWritten
      exact hUnfilled.isRenderFault (Nat.lt_of_lt_of_le hPlaced hWritten)
  · intro event
    exact ⟨fun key hFault => hBound.isOfEvent_of_render hFault,
      fun hFault => hBound.isOfEvent_of_render hFault⟩

theorem render_of_activate_braced :
    ∃ m, (activate ⟨.bool false, none, .text OutputMapping.jsonType⟩ Stream.braced none
        .fail).result = .ok m
      ∧ (∃ t, m.render (.list (List.replicate 5 .null)) = .ok t)
      ∧ ¬ ∃ t, m.render (.tuple (List.replicate 4 .null)) = .ok t := by
  have hAccept : Stream.braced.declaration.accept = .ok Stream.braced := by rfl
  have hActive : (activate ⟨.bool false, none, .text OutputMapping.jsonType⟩ Stream.braced none
      .fail).result = .ok _ := activate_default (valid_of_accept hAccept) rfl
  obtain ⟨-, -, hSequence, -⟩ := render_of_activate hAccept hActive
  obtain ⟨-, hLong, -⟩ := hSequence _ _ (.inl rfl) (exists_text_of_null 5)
  obtain ⟨hShort, -⟩ := hSequence _ _ (.inr rfl) (exists_text_of_null 4)
  refine ⟨_, hActive, hLong (by simp) (by decide), ?_⟩
  rw [hShort]
  rintro (⟨hNil, -⟩ | ⟨-, hCovers⟩)
  · cases hNil
  · -- the last attribute stands at position 4
    exact absurd (hCovers ['\x7b'] (by decide) 4 rfl) (by decide)

end EventLoom
