import EventLoom.Proofs.EventObject

/-!
# What comes of rendering

Rendering goes through the placeholders in the order of the template and ends with the first one
that cannot be filled, so what comes of it can be said without following it. Either every
placeholder leads to an item of the event, and the text is the template with the texts of these
items in place of the placeholders (`Template.filled`); or some placeholder is the first that leads
nowhere, and the fault is about this one, whatever is wrong with those behind it. Events without
items are a case of their own, in which the policy decides and the positions are never looked at.

The literals and the texts that are put in are all there is in a rendered text. What the texts
hold does not matter: placeholder tokens in them are neither looked for nor taken off.

This is said of every template, be it compiled or put together by hand, and of all positions that
are counted from the beginning. A position behind the end is told with the fault, if it can be
written.

## Results

* `renderHoles_eq_error_iff` — the first placeholder that fails decides.
* `fillPlaceholder_eq_ok_iff`, `fillPlaceholder_eq_error_iff` — what comes of one placeholder.
* `render_eq_iff_renders` — what comes of a template.
-/

namespace EventLoom

open Text

-- ---------------------------------------------------------------------------
-- The first placeholder that fails
-- ---------------------------------------------------------------------------

namespace Template

theorem renderHoles_eq_error_iff {fill : Text → Except Fault Text} {holes : List Hole}
    {fault : Fault} :
    renderHoles fill holes = .error fault ↔
      ∃ front key back, holes.map HoleOf.key = front ++ key :: back
        ∧ (∀ k ∈ front, ∃ text, fill k = .ok text) ∧ fill key = .error fault := by
  induction holes with
  | nil =>
    refine iff_of_false nofun ?_
    rintro ⟨front, key, back, hKeys, -⟩
    cases front <;> cases hKeys
  | cons hole rest ih =>
    have hRest : ∀ {filled : Text}, (renderHoles fill rest >>= fun more =>
        pure (filled ++ hole.tail ++ more)) = .error fault ↔
          renderHoles fill rest = .error fault := by
      intro filled
      rw [bind_eq_error_iff, or_iff_left]
      rintro ⟨more, -, hDone⟩
      cases hDone
    rw [renderHoles, bind_eq_error_iff, List.map_cons]
    simp only [hRest, ih]
    constructor
    · rintro (hHere | ⟨filled, hFilled, front, key, back, hKeys, hFront, hKey⟩)
      · exact ⟨[], hole.key, _, rfl, List.forall_mem_nil _, hHere⟩
      · refine ⟨hole.key :: front, key, back, ?_, ?_, hKey⟩
        · rw [hKeys, List.cons_append]
        · exact List.forall_mem_cons.mpr ⟨⟨filled, hFilled⟩, hFront⟩
    · rintro ⟨front, key, back, hKeys, hFront, hKey⟩
      cases front with
      | nil =>
        obtain ⟨rfl, -⟩ := List.cons.inj hKeys
        exact .inl hKey
      | cons first more =>
        obtain ⟨rfl, hMoreKeys⟩ := List.cons.inj hKeys
        obtain ⟨⟨filled, hFilled⟩, hMore⟩ := List.forall_mem_cons.mp hFront
        exact .inr ⟨filled, hFilled, more, key, back, hMoreKeys, hMore, hKey⟩

section Render

variable {t : Template} {event : Value} {length : Nat} {positions : Entries} {policy : EmptyPolicy}
  (hLength : event.length? = some length)
include hLength

/-- Rendering fails as the first placeholder does that fails. -/
theorem render_eq_error_iff {fault : Fault} :
    t.render event positions policy = .error fault ↔
      ∃ front key back, t.keys = front ++ key :: back
        ∧ (∀ k ∈ front, ∃ text, fillPlaceholder event length positions policy k = .ok text)
        ∧ fillPlaceholder event length positions policy key = .error fault := by
  rw [TemplateOf.keys, ← renderHoles_eq_error_iff, render, hLength]
  dsimp only
  rw [bind_eq_error_iff, or_iff_left]
  rintro ⟨rest, -, hDone⟩
  cases hDone

/-- If rendering does not fail, every placeholder has made way for its text. -/
theorem render_eq_ok_iff_filled {text : Text} :
    t.render event positions policy = .ok text ↔
      ∃ f : Text → Text,
        (∀ key ∈ t.keys, fillPlaceholder event length positions policy key = .ok (f key))
        ∧ text = t.filled f := by
  constructor
  · intro h
    have hEach := (render_eq_ok_iff hLength).mp ⟨text, h⟩
    let f (key : Text) : Text :=
      (fillPlaceholder event length positions policy key).toOption.getD []
    have hFilled : ∀ key ∈ t.keys,
        fillPlaceholder event length positions policy key = .ok (f key) := by
      intro key hKey
      obtain ⟨filled, hKeyFilled⟩ := hEach key hKey
      simp only [f, hKeyFilled]
      rfl
    refine ⟨f, hFilled, ?_⟩
    rw [render_of_filled hLength hFilled] at h
    exact (Except.ok.inj h).symm
  · rintro ⟨f, hFilled, rfl⟩
    exact render_of_filled hLength hFilled

end Render

/-- One text between all literals is one text in place of all placeholders. -/
theorem join_literals (separator : Text) (t : Template) :
    join separator t.literals = t.filled fun _ => separator := by
  obtain ⟨lead, holes⟩ := t
  induction holes generalizing lead with
  | nil => exact (List.append_nil lead).symm
  | cons hole rest ih =>
    have hRest := ih hole.tail
    simp only [TemplateOf.literals, filled, List.map_cons] at hRest ⊢
    rw [join_cons_of_ne_nil (List.cons_ne_nil _ _), hRest, List.flatMap_cons]
    simp only [List.append_assoc]

end Template

-- ---------------------------------------------------------------------------
-- One placeholder
-- ---------------------------------------------------------------------------

theorem isBelow_of_asInteger? {position : Value} {n : Int} (h : position.asInteger? = some n)
    (bound : Int) : position.isBelow bound = .ok (decide (n < bound)) := by
  cases position with
  | int m =>
    cases h
    rfl
  | bool b =>
    cases h
    rfl
  | _ => cases h

/-- The key has a position, and the event has an item there. -/
def LeadsTo (positions : Entries) (items : List Value) (key : Text) (v : Value) : Prop :=
  ∃ (position : Value) (place : Nat), Table.get? positions (.text key) = some position
    ∧ position.asInteger? = some (place : Int) ∧ items[place]? = some v

/-- All positions are whole numbers and not counted from the end. -/
def CountForward (positions : Entries) : Prop :=
  ∀ key position, Table.get? positions (.text key) = some position →
    ∃ place : Nat, position.asInteger? = some (place : Int)

/-- It is enough to look at the entries. -/
theorem countForward_of_forall {positions : Entries}
    (h : ∀ entry ∈ positions, ∃ place : Nat, entry.2.asInteger? = some (place : Int)) :
    CountForward positions := by
  intro key position hGet
  induction positions with
  | nil => cases hGet
  | cons entry rest ih =>
    obtain ⟨hHere, hRest⟩ := List.forall_mem_cons.mp h
    rw [Table.get?_cons] at hGet
    split at hGet
    · cases hGet
      exact hHere
    · exact ih hRest hGet

section Placeholder

variable {event : Value} {items : List Value} (hEvent : event.IsSequenceOf items)
include hEvent

theorem item_of_asInteger? {position : Value} {n : Int} (h : position.asInteger? = some n) :
    event.item position = Value.itemOf items n := by
  rcases hEvent with rfl | rfl <;> simp only [Value.item, Value.sequence?, h]

variable {positions : Entries} {policy : EmptyPolicy} {key : Text} (hItems : items ≠ [])
include hItems

omit hEvent in
theorem fillPlaceholder_of_absent (hGet : Table.get? positions (.text key) = none) :
    fillPlaceholder event items.length positions policy key = .error (.unboundKey key) := by
  have hLength : items.length ≠ 0 := by simpa using hItems
  unfold fillPlaceholder
  rw [if_neg hLength, hGet]

/-- At its position the placeholder finds an item, or the end of the event comes before. -/
theorem fillPlaceholder_of_place {position : Value} {place : Nat}
    (hGet : Table.get? positions (.text key) = some position)
    (hPlace : position.asInteger? = some (place : Int)) :
    fillPlaceholder event items.length positions policy key =
      if h : place < items.length then formatValue items[place]
      else .error (position.telling (.shortEvent items.length key position)) := by
  have hLength : items.length ≠ 0 := by simpa using hItems
  have hNotNull : position ≠ .null := by
    rintro rfl
    cases hPlace
  have hFill : fillPlaceholder event items.length positions policy key =
      (position.isBelow items.length >>= fun below =>
        if below then event.item position >>= formatValue
        else throw (position.telling (.shortEvent items.length key position))) := by
    unfold fillPlaceholder
    rw [if_neg hLength, hGet]
    cases position with
    | null => exact absurd rfl hNotNull
    | _ => rfl
  rw [hFill, isBelow_of_asInteger? hPlace, item_of_asInteger? hEvent hPlace]
  by_cases hBelow : place < items.length
  · rw [dif_pos hBelow, Value.item_eq_ok_of_lt hBelow, decide_eq_true (by omega)]
    rfl
  · rw [dif_neg hBelow, decide_eq_false (by omega)]
    rfl

variable (hPositions : CountForward positions)
include hPositions

theorem fillPlaceholder_eq_ok_iff {text : Text} :
    fillPlaceholder event items.length positions policy key = .ok text ↔
      ∃ v, LeadsTo positions items key v ∧ formatValue v = .ok text := by
  constructor
  · intro h
    rcases hGet : Table.get? positions (.text key) with _ | position
    · rw [fillPlaceholder_of_absent hItems hGet] at h
      cases h
    · obtain ⟨place, hPlace⟩ := hPositions key position hGet
      rw [fillPlaceholder_of_place hEvent hItems hGet hPlace] at h
      split at h
      · rename_i hBelow
        exact ⟨_, ⟨position, place, hGet, hPlace, List.getElem?_eq_getElem hBelow⟩, h⟩
      · cases h
  · rintro ⟨v, ⟨position, place, hGet, hPlace, hItem⟩, hText⟩
    obtain ⟨hBelow, rfl⟩ := List.getElem?_eq_some_iff.mp hItem
    rw [fillPlaceholder_of_place hEvent hItems hGet hPlace, dif_pos hBelow, hText]

variable (hTexts : ∀ v ∈ items, ∃ text, formatValue v = .ok text)
include hTexts

theorem exists_fill_iff :
    (∃ text, fillPlaceholder event items.length positions policy key = .ok text) ↔
      ∃ v, LeadsTo positions items key v := by
  simp only [fillPlaceholder_eq_ok_iff hEvent hItems hPositions]
  constructor
  · rintro ⟨text, v, hLeads, -⟩
    exact ⟨v, hLeads⟩
  · rintro ⟨v, hLeads⟩
    have hMem : v ∈ items := by
      obtain ⟨position, place, -, -, hItem⟩ := hLeads
      exact List.mem_of_getElem? hItem
    obtain ⟨text, hText⟩ := hTexts v hMem
    exact ⟨text, v, hLeads, hText⟩

/-- A placeholder leads nowhere because its key has no position, or because the event ends before
that. -/
theorem fillPlaceholder_eq_error_iff {fault : Fault} :
    fillPlaceholder event items.length positions policy key = .error fault ↔
      (Table.get? positions (.text key) = none ∧ fault = .unboundKey key)
      ∨ ∃ (position : Value) (place : Nat), Table.get? positions (.text key) = some position
        ∧ position.asInteger? = some (place : Int) ∧ items.length ≤ place
        ∧ fault = position.telling (.shortEvent items.length key position) := by
  constructor
  · intro h
    rcases hGet : Table.get? positions (.text key) with _ | position
    · rw [fillPlaceholder_of_absent hItems hGet] at h
      cases h
      exact .inl ⟨rfl, rfl⟩
    · obtain ⟨place, hPlace⟩ := hPositions key position hGet
      rw [fillPlaceholder_of_place hEvent hItems hGet hPlace] at h
      split at h
      · rename_i hBelow
        obtain ⟨text, hText⟩ := hTexts items[place] (List.getElem_mem hBelow)
        rw [hText] at h
        cases h
      · rename_i hBehind
        cases h
        exact .inr ⟨position, place, rfl, hPlace, Nat.le_of_not_lt hBehind, rfl⟩
  · rintro (⟨hGet, rfl⟩ | ⟨position, place, hGet, hPlace, hBehind, rfl⟩)
    · exact fillPlaceholder_of_absent hItems hGet
    · rw [fillPlaceholder_of_place hEvent hItems hGet hPlace, dif_neg (by omega)]

end Placeholder

-- ---------------------------------------------------------------------------
-- A whole template
-- ---------------------------------------------------------------------------

/-- The key comes first among those of the template that lead to no item. -/
def Template.FirstAstray (t : Template) (positions : Entries) (items : List Value) (key : Text) :
    Prop :=
  ∃ front back, t.keys = front ++ key :: back ∧ ∀ k ∈ front, ∃ v, LeadsTo positions items k v

/-- What comes of rendering the items of an event. -/
inductive Renders (t : Template) (items : List Value) (positions : Entries)
    (policy : EmptyPolicy) : Except Fault Text → Prop where
  /-- All placeholders lead to items, and make way for the texts of these. -/
  | filled {f : Text → Text} (hItems : items ≠ [])
      (hKeys : ∀ key ∈ t.keys, ∃ v, LeadsTo positions items key v ∧ formatValue v = .ok (f key)) :
      Renders t items positions policy (.ok (t.filled f))
  /-- The first key that leads nowhere has no position. -/
  | unbound {key : Text} (hItems : items ≠ []) (hFirst : t.FirstAstray positions items key)
      (hGet : Table.get? positions (.text key) = none) :
      Renders t items positions policy (.error (.unboundKey key))
  /-- The first key that leads nowhere stands for a position behind the end. -/
  | short {key : Text} {position : Value} {place : Nat} (hItems : items ≠ [])
      (hFirst : t.FirstAstray positions items key)
      (hGet : Table.get? positions (.text key) = some position)
      (hPlace : position.asInteger? = some (place : Int)) (hBehind : items.length ≤ place)
      (hWritten : position.hasText = true) :
      Renders t items positions policy (.error (.shortEvent items.length key position))
  /-- The first key that leads nowhere stands for a position behind the end that is too long to be
  told. -/
  | untold {key : Text} {position : Value} {place : Nat} (hItems : items ≠ [])
      (hFirst : t.FirstAstray positions items key)
      (hGet : Table.get? positions (.text key) = some position)
      (hPlace : position.asInteger? = some (place : Int)) (hBehind : items.length ≤ place)
      (hUnwritten : position.hasText = false) :
      Renders t items positions policy (.error .unwritableInteger)
  /-- Without items there is null at every placeholder, if the policy says so or if there is none
  anyway. -/
  | nullified (hItems : items = []) (hNull : policy = .null ∨ t.keys = []) :
      Renders t items positions policy (.ok (join nullToken t.literals))
  | refused {key : Text} {rest : List Text} (hItems : items = []) (hPolicy : policy = .fail)
      (hKeys : t.keys = key :: rest) : Renders t items positions policy (.error (.emptyEvent key))

/-- The fault is reported as one of rendering, about the key and the index. -/
def Fault.Reports (fault : Fault) (key : Text) (index : Value) : Prop :=
  ∃ message, fault.problem? = some ⟨.render message (.text key) index, .null, none⟩

/-- The fault is reported so, unless the index is too long to be written, and then it is that. -/
def Fault.Tells (fault : Fault) (key : Text) (index : Value) : Prop :=
  index.hasText = true ∧ fault.Reports key index
    ∨ index.hasText = false ∧ fault = .unwritableInteger

section Outcome

variable {t : Template} {event : Value} {items : List Value} {positions : Entries}
  {policy : EmptyPolicy} {outcome : Except Fault Text}

section Empty

variable (hEvent : event.IsSequenceOf [])
include hEvent

/-- An event without items is rendered without a look at the positions. -/
theorem render_of_null (hNull : policy = .null ∨ t.keys = []) :
    t.render event positions policy = .ok (join nullToken t.literals) := by
  rw [Template.join_literals]
  refine Template.render_of_filled hEvent.length?_eq ?_
  rcases hNull with rfl | hNone
  · exact fun _ _ => rfl
  · rw [hNone]
    exact List.forall_mem_nil _

theorem render_of_refused (hPolicy : policy = .fail) {key : Text} {rest : List Text}
    (hKeys : t.keys = key :: rest) :
    t.render event positions policy = .error (.emptyEvent key) := by
  rw [hPolicy]
  exact (Template.render_eq_error_iff hEvent.length?_eq).mpr
    ⟨[], key, rest, hKeys, List.forall_mem_nil _, rfl⟩

theorem renders_of_empty (h : t.render event positions policy = outcome) :
    Renders t [] positions policy outcome := by
  have hNull : policy = .null ∨ t.keys = [] → Renders t [] positions policy outcome := by
    intro hNull
    rw [← h, render_of_null hEvent hNull]
    exact .nullified rfl hNull
  cases hPolicy : policy with
  | null => exact hPolicy ▸ hNull (.inl hPolicy)
  | fail =>
    rcases hKeys : t.keys with _ | ⟨key, rest⟩
    · exact hPolicy ▸ hNull (.inr hKeys)
    · rw [← h, render_of_refused hEvent hPolicy hKeys]
      exact .refused rfl rfl hKeys

end Empty

variable (hEvent : event.IsSequenceOf items) (hPositions : CountForward positions)
  (hTexts : ∀ v ∈ items, ∃ text, formatValue v = .ok text)
include hEvent hPositions hTexts

theorem renders_of_items (hItems : items ≠ []) (h : t.render event positions policy = outcome) :
    Renders t items positions policy outcome := by
  cases outcome with
  | ok text =>
    obtain ⟨f, hFilled, rfl⟩ := (Template.render_eq_ok_iff_filled hEvent.length?_eq).mp h
    exact .filled hItems fun key hKey =>
      (fillPlaceholder_eq_ok_iff hEvent hItems hPositions).mp (hFilled key hKey)
  | error fault =>
    obtain ⟨front, key, back, hKeys, hFront, hKey⟩ :=
      (Template.render_eq_error_iff hEvent.length?_eq).mp h
    have hFirst : t.FirstAstray positions items key := ⟨front, back, hKeys, fun k hk =>
      (exists_fill_iff hEvent hItems hPositions hTexts).mp (hFront k hk)⟩
    rcases (fillPlaceholder_eq_error_iff hEvent hItems hPositions hTexts).mp hKey with
      ⟨hGet, rfl⟩ | ⟨position, place, hGet, hPlace, hBehind, rfl⟩
    · exact .unbound hItems hFirst hGet
    · cases hText : position.hasText with
      | true =>
        rw [Value.telling_of_hasText hText]
        exact .short hItems hFirst hGet hPlace hBehind hText
      | false =>
        rw [Value.telling_of_not_hasText hText]
        exact .untold hItems hFirst hGet hPlace hBehind hText

theorem render_of_astray (hItems : items ≠ []) {key : Text} {fault : Fault}
    (hFirst : t.FirstAstray positions items key)
    (hKey : fillPlaceholder event items.length positions policy key = .error fault) :
    t.render event positions policy = .error fault := by
  obtain ⟨front, back, hKeys, hFront⟩ := hFirst
  exact (Template.render_eq_error_iff hEvent.length?_eq).mpr ⟨front, key, back, hKeys,
    fun k hk => (exists_fill_iff hEvent hItems hPositions hTexts).mpr (hFront k hk), hKey⟩

theorem render_of_renders (h : Renders t items positions policy outcome) :
    t.render event positions policy = outcome := by
  cases h with
  | filled hItems hKeys =>
    exact Template.render_of_filled hEvent.length?_eq fun key hKey =>
      (fillPlaceholder_eq_ok_iff hEvent hItems hPositions).mpr (hKeys key hKey)
  | unbound hItems hFirst hGet =>
    exact render_of_astray hEvent hPositions hTexts hItems hFirst
      (fillPlaceholder_of_absent hItems hGet)
  | short hItems hFirst hGet hPlace hBehind hWritten =>
    refine render_of_astray hEvent hPositions hTexts hItems hFirst ?_
    rw [fillPlaceholder_of_place hEvent hItems hGet hPlace, dif_neg (by omega),
      Value.telling_of_hasText hWritten]
  | untold hItems hFirst hGet hPlace hBehind hUnwritten =>
    refine render_of_astray hEvent hPositions hTexts hItems hFirst ?_
    rw [fillPlaceholder_of_place hEvent hItems hGet hPlace, dif_neg (by omega),
      Value.telling_of_not_hasText hUnwritten]
  | nullified hItems hNull => exact render_of_null (hItems ▸ hEvent) hNull
  | refused hItems hPolicy hKeys => exact render_of_refused (hItems ▸ hEvent) hPolicy hKeys

omit hEvent hPositions hTexts in
/-- A fault of rendering tells the first key that fails, and the position of that key if the event
is too short for it. -/
theorem Renders.tells {fault : Fault} (h : Renders t items positions policy (.error fault)) :
    ∃ key ∈ t.keys, fault.Tells key
      (if items = [] then .null else (Table.get? positions (.text key)).getD .null) := by
  have hMem : ∀ {front back : List Text} {key : Text}, t.keys = front ++ key :: back →
      key ∈ t.keys := by
    intro front back key hKeys
    rw [hKeys]
    exact List.mem_append_right _ List.mem_cons_self
  cases h with
  | unbound hItems hFirst hGet =>
    obtain ⟨front, back, hKeys, -⟩ := hFirst
    refine ⟨_, hMem hKeys, ?_⟩
    rw [if_neg hItems, hGet, Option.getD_none]
    exact .inl ⟨rfl, _, rfl⟩
  | short hItems hFirst hGet hPlace hBehind hWritten =>
    obtain ⟨front, back, hKeys, -⟩ := hFirst
    refine ⟨_, hMem hKeys, ?_⟩
    rw [if_neg hItems, hGet, Option.getD_some]
    exact .inl ⟨hWritten, _, rfl⟩
  | untold hItems hFirst hGet hPlace hBehind hUnwritten =>
    obtain ⟨front, back, hKeys, -⟩ := hFirst
    refine ⟨_, hMem hKeys, ?_⟩
    rw [if_neg hItems, hGet, Option.getD_some]
    exact .inr ⟨hUnwritten, rfl⟩
  | @refused key rest hItems hPolicy hKeys =>
    have hFirst : key ∈ t.keys := by
      rw [hKeys]
      exact List.mem_cons_self
    refine ⟨key, hFirst, ?_⟩
    rw [if_pos hItems]
    exact .inl ⟨rfl, _, rfl⟩

end Outcome

/-- **What comes of rendering** a list or tuple whose values all have a text, with positions that
are counted from the beginning, is what the items, the positions and the policy say of the first
placeholder that leads nowhere, or the filled template. A fault is one of rendering, and is reported
with that placeholder's key and its position, if it has one and there are items at all; a position
that is too long to be written is not reported, and the fault says just this. -/
theorem Template.render_eq_iff_renders (t : Template) {event : Value} {items : List Value}
    (hEvent : event.IsSequenceOf items) (hTexts : ∀ v ∈ items, ∃ text, formatValue v = .ok text)
    {positions : Entries} (hPositions : CountForward positions) (policy : EmptyPolicy) :
    (∀ outcome, t.render event positions policy = outcome ↔
      Renders t items positions policy outcome)
    ∧ ∀ fault, t.render event positions policy = .error fault →
      ∃ key ∈ t.keys, fault.Tells key
        (if items = [] then .null else (Table.get? positions (.text key)).getD .null) := by
  have hRenders : ∀ {outcome}, t.render event positions policy = outcome →
      Renders t items positions policy outcome := by
    intro outcome h
    by_cases hItems : items = []
    · subst hItems
      exact renders_of_empty hEvent h
    · exact renders_of_items hEvent hPositions hTexts hItems h
  refine ⟨fun outcome => ⟨hRenders, render_of_renders hEvent hPositions hTexts⟩, ?_⟩
  exact fun fault h => (hRenders h).tells

/-- A template with one key twice. -/
def pairTemplate : Template :=
  ⟨['['], [⟨['x'], [',']⟩, ⟨['y'], [',']⟩, ⟨['x'], [']']⟩]⟩

/-- Positions of its keys; a truth value counts as a number. -/
def pairPositions : Entries := [(.text ['x'], .int 1), (.text ['y'], .bool false)]

theorem countForward_pairPositions : CountForward pairPositions :=
  countForward_of_forall
    (List.forall_mem_cons.mpr ⟨⟨1, rfl⟩, List.forall_mem_singleton.mpr ⟨0, rfl⟩⟩)

theorem Template.render_eq_iff_renders_pair :
    pairTemplate.render (.list [.int 7, .text (placeholder ['y'])]) pairPositions .fail
      = .ok "[\"\x7b\x7by\x7d\x7d\",7,\"\x7b\x7by\x7d\x7d\"]".toList
    ∧ pairTemplate.render (.tuple [.int 7]) pairPositions .null
      = .error (.shortEvent 1 ['x'] (.int 1)) := by
  have hNumber : formatValue (.int 7) = .ok ['7'] := formatValue_int (by decide +kernel)
  have hToken : formatValue (.text (placeholder ['y'])) = .ok ('"' :: placeholder ['y'] ++ ['"']) :=
    rfl
  obtain ⟨hLong, -⟩ := pairTemplate.render_eq_iff_renders (.inl rfl)
    (List.forall_mem_cons.mpr ⟨⟨_, hNumber⟩, List.forall_mem_singleton.mpr ⟨_, hToken⟩⟩)
    countForward_pairPositions .fail
  obtain ⟨hShort, -⟩ := pairTemplate.render_eq_iff_renders (.inr rfl)
    (List.forall_mem_singleton.mpr ⟨_, hNumber⟩) countForward_pairPositions .null
  constructor
  · let f (key : Text) : Text := if key = ['x'] then '"' :: placeholder ['y'] ++ ['"'] else ['7']
    have hFirst : LeadsTo pairPositions [.int 7, .text (placeholder ['y'])] ['x']
        (.text (placeholder ['y'])) := ⟨.int 1, 1, rfl, rfl, rfl⟩
    have hSecond : LeadsTo pairPositions [.int 7, .text (placeholder ['y'])] ['y'] (.int 7) :=
      ⟨.bool false, 0, rfl, rfl, rfl⟩
    refine (hLong (.ok (pairTemplate.filled f))).mpr (.filled (List.cons_ne_nil _ _) ?_)
    show ∀ key ∈ [['x'], ['y'], ['x']], _
    simp only [List.forall_mem_cons]
    exact ⟨⟨_, hFirst, hToken⟩, ⟨_, hSecond, hNumber⟩, ⟨_, hFirst, hToken⟩, List.forall_mem_nil _⟩
  · have hFirst : pairTemplate.FirstAstray pairPositions [.int 7] ['x'] :=
      ⟨[], [['y'], ['x']], rfl, List.forall_mem_nil _⟩
    have hPlace : (Value.int 1).asInteger? = some ((1 : Nat) : Int) := rfl
    have hWritten : (Value.int 1).hasText = true := by decide +kernel
    exact (hShort _).mpr (.short (List.cons_ne_nil _ _) hFirst rfl hPlace (by decide) hWritten)

/-- **A position that is too long to be written** is behind the end of the event, and yet the fault
names neither a key nor a position. And a zero that is no integer is not taken for a position. -/
theorem render_of_unwritable_position :
    CountForward [(.text ['x'], .int Number.unwritable)]
    ∧ pairTemplate.render (.list [.int 7]) [(.text ['x'], .int Number.unwritable)] .null
      = .error .unwritableInteger
    ∧ (∀ key index, ¬ Fault.unwritableInteger.Reports key index)
    ∧ pairTemplate.render (.list [.int 7])
      [(.text ['x'], .float (.ofInt 0)), (.text ['y'], .int 0)] .null = .error .wrongType := by
  have hPosition : CountForward [(.text ['x'], .int Number.unwritable)] :=
    countForward_of_forall (List.forall_mem_singleton.mpr ⟨Number.unwritable, rfl⟩)
  have hNumber : formatValue (.int 7) = .ok ['7'] := formatValue_int (by decide +kernel)
  have hFirst : pairTemplate.FirstAstray [(.text ['x'], .int Number.unwritable)] [.int 7] ['x'] :=
    ⟨[], [['y'], ['x']], rfl, List.forall_mem_nil _⟩
  have hBehind : [Value.int 7].length ≤ Number.unwritable := by decide +kernel
  refine ⟨hPosition, ?_, ?_, ?_⟩
  · refine render_of_renders (.inl rfl) hPosition
      (List.forall_mem_singleton.mpr ⟨_, hNumber⟩) ?_
    exact .untold (List.cons_ne_nil _ _) hFirst rfl rfl hBehind Value.hasText_unwritable
  · rintro key index ⟨message, hReported⟩
    cases hReported
  · have hBelow : (Value.float (.ofInt 0)).isBelow ([Value.int 7].length : Int) = .ok true :=
      congrArg Except.ok (by decide +kernel : (Binary64.ofInt 0).lessThan 1 = true)
    have hLength : (Value.list [.int 7]).length? = some 1 := rfl
    refine (Template.render_eq_error_iff hLength).mpr
      ⟨[], ['x'], [['y'], ['x']], rfl, List.forall_mem_nil _, ?_⟩
    show ((Value.float (.ofInt 0)).isBelow ([Value.int 7].length : Int) >>= _) = _
    rw [hBelow]
    rfl

end EventLoom
