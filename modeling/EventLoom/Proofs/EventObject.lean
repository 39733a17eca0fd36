import EventLoom.Proofs.AttributeValues

/-!
# Default mappings render JSON

The default mapping never writes an object as JSON. It writes the placeholders that way once, when
the template is made, and later puts the text of each value where its placeholder stands. The same
text comes of writing the finished object, the event with all its values, as long as every value
is put in as JSON would write it. That is so for null, truth values, integers and those texts that
need no escapes; the text of any other value is put in without regard to JSON.

## Results

* `formatValue_eq_write` — which values are put in as JSON writes them.
* `render_eventTemplate` — a default template renders to its literals with the values' texts.
* `render_default_eq_json` — the default mapping renders the JSON of the event's object.
-/

namespace EventLoom

open Text Number

-- ---------------------------------------------------------------------------
-- Scalars
-- ---------------------------------------------------------------------------

/-- The value is null, a truth value, an integer that has a text, or a text of the given kind. -/
def Value.IsScalarOf (kind : Text → Prop) : Value → Prop
  | .null | .bool _ => True
  | .int n => fitsText n = true
  | .text t => kind t
  | _ => False

theorem formatValue_int {n : Int} (h : fitsText n = true) :
    formatValue (.int n) = .ok (intText n) := by
  have hText : (Value.int n).hasText = true := by
    rw [Value.hasText]
    exact h
  calc formatValue (.int n) = (Value.int n).written := by simp only [formatValue]
    _ = .ok (Value.int n).plain := by rw [Value.written, if_pos hText]
    _ = .ok (intText n) := rfl

/-- A text that needs no escapes, and any other scalar, is put in as JSON writes it. -/
theorem formatValue_eq_write {v : Value} (h : v.IsScalarOf fun t => Json.escape t = t)
    (style : Json.Style) : formatValue v = .ok (Json.write style v) := by
  cases v with
  | null => rfl
  | bool b => rfl
  | int n =>
    have hFits : fitsText n = true := h
    rw [formatValue_int hFits, Json.write]
  | text t =>
    have hPlain : Json.escape t = t := h
    rw [formatValue, Json.write, Json.writeText, hPlain]
  | _ => exact h.elim

-- ---------------------------------------------------------------------------
-- Rendering a default template
-- ---------------------------------------------------------------------------

namespace Template

theorem renderHoles_of_filled {fill : Text → Except Fault Text} {f : Text → Text}
    {holes : List Hole} (h : ∀ hole ∈ holes, fill hole.key = .ok (f hole.key)) :
    renderHoles fill holes = .ok (holes.flatMap fun hole => f hole.key ++ hole.tail) := by
  induction holes with
  | nil => rfl
  | cons hole rest ih =>
    obtain ⟨hHere, hRest⟩ := List.forall_mem_cons.mp h
    rw [renderHoles, hHere, ih hRest, List.flatMap_cons]
    rfl

/-- If no placeholder fails, the literals stay and each placeholder makes way for its text. -/
theorem render_of_filled {t : Template} {event : Value} {length : Nat}
    (hLength : event.length? = some length) {positions : Entries} {policy : EmptyPolicy}
    {f : Text → Text}
    (h : ∀ key ∈ t.keys, fillPlaceholder event length positions policy key = .ok (f key)) :
    t.render event positions policy = .ok (t.filled f) := by
  rw [render, hLength]
  dsimp only
  rw [renderHoles_of_filled (List.forall_mem_map.mp h)]
  rfl

end Template

/-- **Rendering a default template** puts the text of an attribute's value behind its name and
changes nothing else. -/
theorem render_eventTemplate {s : Stream} (h : s.Valid) {event : Value} {items : List Value}
    (hEvent : event.sequence? = some items) (hLength : s.attributes.length ≤ items.length)
    (hTexts : ∀ v ∈ items, ∃ t, formatValue v = .ok t) (policy : EmptyPolicy) :
    ∃ f : Text → Text,
      (∀ a ∈ s.attributes, ∃ v ∈ items,
        s.valueOf? items a = some v ∧ formatValue v = .ok (f a.key))
      ∧ (eventTemplate s.names).render event (Positions.ofStream s).entries policy
        = .ok (spell f (eventRuns s.names) (eventLast s.names)) := by
  -- what a key becomes does not depend on where it stands, so it is a function of the key
  let fill := fillPlaceholder event items.length (Positions.ofStream s).entries policy
  have hFill : ∀ a ∈ s.attributes, ∃ v ∈ items, s.valueOf? items a = some v
      ∧ ∃ t, formatValue v = .ok t ∧ fill a.key = .ok t := by
    intro a ha
    obtain ⟨v, hMem, hValue⟩ := Stream.exists_valueOf? hLength ha
    obtain ⟨t, hText⟩ := hTexts v hMem
    refine ⟨v, hMem, hValue, t, hText, ?_⟩
    rw [← hText]
    exact fillPlaceholder_of_attribute h hEvent ha a.answersTo_key hValue
  refine ⟨fun key => (fill key).toOption.getD [], ?_, ?_⟩
  · intro a ha
    obtain ⟨v, hMem, hValue, t, hText, hKey⟩ := hFill a ha
    refine ⟨v, hMem, hValue, ?_⟩
    show formatValue v = .ok ((fill a.key).toOption.getD [])
    rw [hText, hKey]
    rfl
  · rw [← Template.filled_ofRuns, ← eventTemplate]
    apply Template.render_of_filled (Value.length?_of_sequence? hEvent)
    rw [Stream.keys_eventTemplate, List.forall_mem_map]
    intro a ha
    obtain ⟨v, -, -, t, -, hKey⟩ := hFill a ha
    show fill a.key = .ok ((fill a.key).toOption.getD [])
    rw [hKey]
    rfl

/-- **The default mapping renders JSON.** It is activated for every accepted stream, and an event of
as many values as the stream has attributes, each of them null, a truth value, an integer that has a
text, or a text that JSON writes without escapes, is rendered as the JSON of its object: the groups
that are not empty, in layout order, and in each the attributes with the values at their
positions. -/
theorem render_default_eq_json {d : Declaration} {s : Stream} (hAccept : d.accept = .ok s)
    {mapping : OutputMapping} (hDefault : mapping.isCustom = false)
    (read? : Option (Text → Except Fault Text)) (policy : EmptyPolicy) :
    ∃ m, (activate mapping s read? policy).result = .ok m ∧
      ∀ (event : Value) (items : List Value), event.sequence? = some items →
        items.length = s.attributes.length →
        (∀ v ∈ items, v.IsScalarOf fun t => Json.escape t = t) →
        ∃ content : Attribute → Value,
          (∀ (position : Nat) (a : Attribute), s.attributes[position]? = some a →
            items[position]? = some (content a))
          ∧ m.render event = .ok (Json.write .compact (eventObject content s.names)) := by
  have hValid := valid_of_accept hAccept
  refine ⟨_, activate_default hValid hDefault, ?_⟩
  intro event items hEvent hLength hScalars
  have hTexts : ∀ v ∈ items, ∃ t, formatValue v = .ok t := fun v hv =>
    ⟨_, formatValue_eq_write (hScalars v hv) .compact⟩
  obtain ⟨f, hf, hRender⟩ :=
    render_eventTemplate hValid hEvent (Nat.le_of_eq hLength.symm) hTexts policy
  refine ⟨fun a => (s.valueOf? items a).getD .null, ?_, ?_⟩
  · intro position a ha
    obtain ⟨v, -, hValue, -⟩ := hf a (List.mem_of_getElem? ha)
    show items[position]? = some ((s.valueOf? items a).getD .null)
    rw [← Stream.valueOf?_of_getElem? hValid ha, hValue, Option.getD_some]
  · have hObject : Json.write .compact
        (eventObject (fun a => (s.valueOf? items a).getD .null) s.names)
          = spell f (eventRuns s.names) (eventLast s.names) := by
      apply write_eventObject
      intro g name hName
      obtain ⟨v, hMem, hValue, hText⟩ := hf ⟨name, g⟩ (Stream.mem_attributes_iff.mpr hName)
      rw [formatValue_eq_write (hScalars v hMem) .compact, Except.ok.injEq] at hText
      rw [hValue, Option.getD_some, hText]
    rw [hObject]
    exact hRender

theorem render_default_eq_json_braced :
    ∃ m, (activate ⟨.bool false, none, .text OutputMapping.jsonType⟩ .braced none .fail).result
        = .ok m
      ∧ m.render (.tuple [.null, .bool true, .int (-3), .text "\x7b\x7bq\x7d\x7d".toList, .text []])
        = .ok ("\x7b\"event\":\x7b\"metaData\":\x7b\"a\x7b\":null\x7d,".toList
          ++ "\"correlationData\":\x7b\"\x7bc\":true\x7d,".toList
          ++ "\"payloadData\":\x7b\"\x7db\":-3,".toList
          ++ "\"q\x7br\":\"\x7b\x7bq\x7d\x7d\",\"\x7b\":\"\"\x7d\x7d\x7d".toList) := by
  have hAccept : Stream.braced.declaration.accept = .ok .braced := by rfl
  have hDefault : (⟨.bool false, none, .text OutputMapping.jsonType⟩ : OutputMapping).isCustom
      = false := by rfl
  obtain ⟨m, hActive, hJson⟩ := render_default_eq_json hAccept hDefault none .fail
  refine ⟨m, hActive, ?_⟩
  have hFits : fitsText (-3) = true := by decide +kernel
  obtain ⟨content, hContent, hRender⟩ := hJson (.tuple [.null, .bool true, .int (-3),
    .text "\x7b\x7bq\x7d\x7d".toList, .text []]) _ rfl rfl (by
      simp only [List.forall_mem_cons]
      exact ⟨trivial, trivial, hFits, rfl, rfl, by simp⟩)
  have hMeta : Value.null = content _ := Option.some.inj (hContent 0 _ rfl)
  have hTrace : Value.bool true = content _ := Option.some.inj (hContent 1 _ rfl)
  have hFirst : Value.int (-3) = content _ := Option.some.inj (hContent 2 _ rfl)
  have hSecond : Value.text "\x7b\x7bq\x7d\x7d".toList = content _ :=
    Option.some.inj (hContent 3 _ rfl)
  have hThird : Value.text [] = content _ := Option.some.inj (hContent 4 _ rfl)
  have hObject : eventObject content Stream.braced.names = .ofTable [(eventTag, .ofTable [
      (Group.tag .metadata, .ofTable [("a\x7b".toList, .null)]),
      (Group.tag .correlation, .ofTable [("\x7bc".toList, .bool true)]),
      (Group.tag .payload, .ofTable [("\x7db".toList, .int (-3)),
        ("q\x7br".toList, .text "\x7b\x7bq\x7d\x7d".toList), ("\x7b".toList, .text [])])])] := by
    rw [hMeta, hTrace, hFirst, hSecond, hThird]
    rfl
  rw [hRender, hObject]
  rfl

end EventLoom
