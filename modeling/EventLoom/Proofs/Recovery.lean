import EventLoom.Proofs.EventObject

/-!
# Reading values back

A default template puts a text between quotes without escaping it, so what is rendered need not be
JSON: a text may hold braces and commas, a backslash before the closing quote, or a piece that looks
like the rest of the event. As long as no text holds a double quote, nothing of an event is lost all
the same. What is put in for a value ends where it can be seen without knowing the value: at the
second quote if it begins with one, and otherwise before the first comma or closing brace, one of
which every literal behind a value begins with (`EndsValue`). So two events that are rendered alike
have the same texts put in, one after the other, and a text put in tells the value
(`readFilling`).

A custom template need not have such literals, and then two numbers can run into one another.

## Results

* `filling_append_inj` — where a text that was put in ends can be told from what follows it.
* `spell_inj` — one text has at most one way to fill the runs.
* `exists_filling` — what is put in for a value without quotes ends by itself and tells the value.
* `render_default_injective` — the default mapping renders different events differently.
-/

namespace EventLoom

open Text Number

-- ---------------------------------------------------------------------------
-- Where a text ends
-- ---------------------------------------------------------------------------

/-- If two beginnings hold only characters of a class, and neither rest begins with one, the text
falls apart in one way. -/
theorem append_inj_of_class {p : Char → Bool} {a b u v : Text} (ha : ∀ c ∈ a, p c = true)
    (hb : ∀ c ∈ b, p c = true) (hu : u.takeWhile p = []) (hv : v.takeWhile p = [])
    (h : a ++ u = b ++ v) : a = b ∧ u = v := by
  have hFront : (a ++ u).takeWhile p = a := by
    rw [List.takeWhile_append_of_pos ha, hu, List.append_nil]
  have hFront' : (b ++ v).takeWhile p = b := by
    rw [List.takeWhile_append_of_pos hb, hv, List.append_nil]
  have hSame : a = b := by
    rw [← hFront, h, hFront']
  subst hSame
  exact ⟨rfl, List.append_cancel_left h⟩

/-- The character is no quote, and none that comes behind a value. -/
def isBareChar (c : Char) : Bool := c != '"' && c != ',' && c != '}'

/-- The text begins with what comes behind a value. -/
def EndsValue (t : Text) : Prop := t.head? = some ',' ∨ t.head? = some '}'

theorem EndsValue.append {t : Text} (h : EndsValue t) (u : Text) : EndsValue (t ++ u) := by
  rcases h with h | h
  · exact .inl (by rw [List.head?_append, h, Option.some_or])
  · exact .inr (by rw [List.head?_append, h, Option.some_or])

theorem EndsValue.takeWhile_eq_nil {t : Text} (h : EndsValue t) : t.takeWhile isBareChar = [] := by
  cases t with
  | nil => rfl
  | cons c rest =>
    have hc : isBareChar c = false := by
      rcases h with h | h
      · cases h
        rfl
      · cases h
        rfl
    rw [List.takeWhile_cons, hc]
    rfl

/-- The text ends by itself: it is quoted and holds no other quote, or it holds nothing that would
end it. -/
inductive IsFilling : Text → Prop where
  | quoted {t : Text} (h : '"' ∉ t) : IsFilling ('"' :: t ++ ['"'])
  | bare {t : Text} (h : ∀ c ∈ t, isBareChar c = true) : IsFilling t

/-- A text without quotes is not taken for one between quotes. -/
theorem quoted_append_ne_bare {t b u v : Text} (hb : ∀ c ∈ b, isBareChar c = true)
    (hv : EndsValue v) : '"' :: t ++ ['"'] ++ u ≠ b ++ v := by
  intro h
  cases b with
  | nil =>
    rw [List.nil_append] at h
    rcases hv with hv | hv
    · rw [← h] at hv
      exact absurd hv (by simp)
    · rw [← h] at hv
      exact absurd hv (by simp)
  | cons c rest =>
    rw [List.cons_append, List.cons_append, List.cons_append, List.cons.injEq] at h
    have hc := hb c (List.mem_cons_self ..)
    rw [← h.1] at hc
    exact absurd hc (by decide)

/-- **Where a filling ends** can be told from the text: if it goes on with what comes behind a value,
it falls apart in one way. -/
theorem filling_append_inj {a b u v : Text} (ha : IsFilling a) (hb : IsFilling b)
    (hu : EndsValue u) (hv : EndsValue v) (h : a ++ u = b ++ v) : a = b ∧ u = v := by
  cases ha with
  | quoted ht =>
    rename_i t
    cases hb with
    | quoted ht' =>
      rename_i t'
      -- behind the first quote, the texts go as far as the next one
      have hInner : t ++ '"' :: u = t' ++ '"' :: v := by simpa using h
      have hFree : ∀ {w : Text}, '"' ∉ w → ∀ c ∈ w, (c != '"') = true := by
        intro w hw c hc
        rw [bne_iff_ne]
        rintro rfl
        exact hw hc
      obtain ⟨rfl, hRest⟩ := append_inj_of_class (hFree ht) (hFree ht') rfl rfl hInner
      exact ⟨rfl, (List.cons.inj hRest).2⟩
    | bare hBare => exact absurd h (quoted_append_ne_bare hBare hv)
  | bare hBare =>
    cases hb with
    | quoted _ => exact absurd h.symm (quoted_append_ne_bare hBare hu)
    | bare hBare' =>
      exact append_inj_of_class hBare hBare' hu.takeWhile_eq_nil hv.takeWhile_eq_nil h

-- ---------------------------------------------------------------------------
-- Runs with fillings
-- ---------------------------------------------------------------------------

theorem endsValue_spell {f : Text → Text} {runs : List Run} {last : Text}
    (hRuns : ∀ run ∈ runs, EndsValue run.lead) (hLast : EndsValue last) :
    EndsValue (spell f runs last) := by
  cases runs with
  | nil => exact hLast
  | cons run rest =>
    rw [spell_cons, List.append_assoc]
    exact (hRuns run (List.mem_cons_self ..)).append _

/-- **One text has at most one way to fill the runs**, if every literal behind a placeholder begins
with what comes behind a value. -/
theorem spell_inj {f f' : Text → Text} {runs : List Run} {last : Text}
    (hFill : ∀ run ∈ runs, IsFilling (f run.key) ∧ IsFilling (f' run.key))
    (hRuns : ∀ run ∈ runs.tail, EndsValue run.lead) (hLast : runs ≠ [] → EndsValue last)
    (h : spell f runs last = spell f' runs last) : ∀ run ∈ runs, f run.key = f' run.key := by
  induction runs with
  | nil => simp
  | cons run rest ih =>
    obtain ⟨⟨hHere, hHere'⟩, hLater⟩ := List.forall_mem_cons.mp hFill
    have hEnd := hLast (List.cons_ne_nil run rest)
    rw [spell_cons, spell_cons, List.append_assoc, List.append_assoc,
      List.append_cancel_left_eq] at h
    obtain ⟨hSame, hRest⟩ := filling_append_inj hHere hHere' (endsValue_spell hRuns hEnd)
      (endsValue_spell hRuns hEnd) h
    rw [List.forall_mem_cons]
    exact ⟨hSame, ih hLater (fun r hr => hRuns r (List.mem_of_mem_tail hr)) (fun _ => hEnd) hRest⟩

theorem endsValue_memberRuns {g : Group} {start : Text} {names : List Text}
    (h : EndsValue start) : ∀ run ∈ memberRuns g start names, EndsValue run.lead := by
  induction names generalizing start with
  | nil => simp [memberRuns]
  | cons name rest ih =>
    rw [memberRuns, List.forall_mem_cons]
    exact ⟨(h.append _).append _, ih (.inl rfl)⟩

theorem endsValue_groupRuns {names : Group → List Text} {start : Text} {groups : List Group}
    (h : EndsValue start) : ∀ run ∈ groupRuns names start groups, EndsValue run.lead := by
  induction groups generalizing start with
  | nil => simp [groupRuns]
  | cons g rest ih =>
    rw [groupRuns, List.forall_mem_append]
    exact ⟨endsValue_memberRuns ((h.append _).append _), ih (.inr rfl)⟩

/-- Every run of an event but the first begins with the comma behind a member, or with the brace
behind a group. -/
theorem endsValue_tail_groupRuns {names : Group → List Text} {start : Text} {groups : List Group}
    (hNames : ∀ g ∈ groups, names g ≠ []) :
    ∀ run ∈ (groupRuns names start groups).tail, EndsValue run.lead := by
  cases groups with
  | nil => simp [groupRuns]
  | cons g rest =>
    obtain ⟨name, more, hHere⟩ := List.exists_cons_of_ne_nil (hNames g (List.mem_cons_self ..))
    rw [groupRuns, hHere, memberRuns, List.cons_append, List.tail_cons, List.forall_mem_append]
    exact ⟨endsValue_memberRuns (.inl rfl), endsValue_groupRuns (.inr rfl)⟩

theorem endsValue_tail_eventRuns (names : Group → List Text) :
    ∀ run ∈ (eventRuns names).tail, EndsValue run.lead := by
  apply endsValue_tail_groupRuns
  intro g hg
  simpa using (List.mem_filter.mp hg).2

theorem endsValue_eventLast {names : Group → List Text} (h : eventRuns names ≠ []) :
    EndsValue (eventLast names) := by
  have hGroups : presentGroups names ≠ [] := by
    intro hNone
    apply h
    rw [eventRuns, hNone, groupRuns]
  rw [eventLast, if_neg hGroups]
  exact .inr rfl

-- ---------------------------------------------------------------------------
-- Values from fillings
-- ---------------------------------------------------------------------------

/-- The value that a text was put in for. -/
def readFilling : Text → Value
  | '"' :: rest => .text rest.dropLast
  | t =>
    if t = nullToken then .null
    else if t = "true".toList then .bool true
    else if t = "false".toList then .bool false
    else .int (((readNumeral? t).map Numeral.value).getD 0)

/-- A text with a character that is neither a digit nor a sign is no integer's. -/
theorem intText_ne {n : Int} {t : Text} {c : Char} (hc : c ∈ t)
    (hKind : c ≠ '-' ∧ c.isDigit = false) : intText n ≠ t := by
  intro h
  rcases mem_intText (h ▸ hc) with hSign | hDigit
  · exact hKind.1 hSign
  · rw [hKind.2] at hDigit
    cases hDigit

theorem readFilling_intText (n : Int) : readFilling (intText n) = .int n := by
  rw [readFilling]
  · rw [if_neg (intText_ne (c := 'n') (by decide) (by decide)),
      if_neg (intText_ne (c := 't') (by decide) (by decide)),
      if_neg (intText_ne (c := 'f') (by decide) (by decide)), value_intText, Option.getD_some]
  · intro rest
    exact intText_ne (c := '"') (List.mem_cons_self ..) (by decide)

theorem isFilling_intText (n : Int) : IsFilling (intText n) := by
  refine .bare fun c hc => ?_
  rcases mem_intText hc with rfl | hDigit
  · decide
  · -- the three characters that are not bare are no digits
    have hNot : ∀ d : Char, d.isDigit = false → (c != d) = true := by
      intro d hd
      rw [bne_iff_ne]
      rintro rfl
      rw [hd] at hDigit
      cases hDigit
    rw [isBareChar, hNot '"' (by decide), hNot ',' (by decide), hNot '}' (by decide)]
    rfl

/-- **What is put in for a value** without quotes ends by itself and tells the value. -/
theorem exists_filling {v : Value} (h : v.IsScalarOf fun t => '"' ∉ t) :
    ∃ t, formatValue v = .ok t ∧ IsFilling t ∧ readFilling t = v := by
  cases v with
  | null => exact ⟨nullToken, rfl, .bare (List.all_eq_true.mp (by rfl)), rfl⟩
  | bool b =>
    cases b with
    | true => exact ⟨"true".toList, rfl, .bare (List.all_eq_true.mp (by rfl)), rfl⟩
    | false => exact ⟨"false".toList, rfl, .bare (List.all_eq_true.mp (by rfl)), rfl⟩
  | int n => exact ⟨_, formatValue_int h, isFilling_intText n, readFilling_intText n⟩
  | text t =>
    refine ⟨_, rfl, .quoted h, ?_⟩
    show Value.text (t ++ ['"']).dropLast = .text t
    rw [List.dropLast_concat]
  | _ => exact h.elim

-- ---------------------------------------------------------------------------
-- Events from texts
-- ---------------------------------------------------------------------------

/-- Items are told by the values that they give the attributes. -/
theorem Stream.items_ext {s : Stream} (h : s.Valid) {items items' : List Value}
    (hLength : items.length = s.attributes.length) (hLength' : items'.length = s.attributes.length)
    (hSame : ∀ a ∈ s.attributes, s.valueOf? items a = s.valueOf? items' a) : items = items' := by
  apply List.ext_getElem?
  intro position
  by_cases hBelow : position < s.attributes.length
  · have hAttribute := List.getElem?_eq_getElem hBelow
    rw [← valueOf?_of_getElem? h hAttribute, ← valueOf?_of_getElem? h hAttribute]
    exact hSame _ (List.getElem_mem hBelow)
  · rw [List.getElem?_eq_none (by omega), List.getElem?_eq_none (by omega)]

/-- The placeholders of an event are those of the stream's attributes. -/
theorem forall_eventRuns_iff {s : Stream} {P : Text → Prop} :
    (∀ run ∈ eventRuns s.names, P run.key) ↔ ∀ a ∈ s.attributes, P a.key := by
  have hRuns : (∀ run ∈ eventRuns s.names, P run.key)
      ↔ ∀ key ∈ (eventRuns s.names).map Run.key, P key := List.forall_mem_map.symm
  rw [hRuns, keys_eventRuns, List.forall_mem_map]

/-- A default template renders such an event to fillings that tell its values. -/
theorem render_fillings {s : Stream} (h : s.Valid) {event : Value} {items : List Value}
    (hEvent : event.sequence? = some items) (hLength : items.length = s.attributes.length)
    (hScalars : ∀ v ∈ items, v.IsScalarOf fun t => '"' ∉ t) (policy : EmptyPolicy) :
    ∃ f : Text → Text,
      (∀ a ∈ s.attributes, IsFilling (f a.key) ∧ s.valueOf? items a = some (readFilling (f a.key)))
      ∧ (eventTemplate s.names).render event (Positions.ofStream s).entries policy
        = .ok (spell f (eventRuns s.names) (eventLast s.names)) := by
  have hTexts : ∀ v ∈ items, ∃ t, formatValue v = .ok t := by
    intro v hv
    obtain ⟨t, hText, -⟩ := exists_filling (hScalars v hv)
    exact ⟨t, hText⟩
  obtain ⟨f, hf, hRender⟩ :=
    render_eventTemplate h hEvent (Nat.le_of_eq hLength.symm) hTexts policy
  refine ⟨f, ?_, hRender⟩
  intro a ha
  obtain ⟨v, hMem, hValue, hText⟩ := hf a ha
  obtain ⟨t, hText', hFilling, hRead⟩ := exists_filling (hScalars v hMem)
  have hSame : f a.key = t := Except.ok.inj (hText.symm.trans hText')
  rw [hSame, hRead]
  exact ⟨hFilling, hValue⟩

/-- **The default mapping loses nothing.** It is activated for every accepted stream. An event of as
many values as the stream has attributes, each of them null, a truth value, an integer that has a
text, or a text without double quotes, is rendered, and another such event that is rendered to the
same text has the same values at all positions. -/
theorem render_default_injective {d : Declaration} {s : Stream} (hAccept : d.accept = .ok s)
    {mapping : OutputMapping} (hDefault : mapping.isCustom = false)
    (read? : Option (Text → Except Fault Text)) (policy : EmptyPolicy) :
    ∃ m, (activate mapping s read? policy).result = .ok m ∧
      ∀ (event event' : Value) (items items' : List Value),
        event.sequence? = some items → event'.sequence? = some items' →
        items.length = s.attributes.length → items'.length = s.attributes.length →
        (∀ v ∈ items, v.IsScalarOf fun t => '"' ∉ t) →
        (∀ v ∈ items', v.IsScalarOf fun t => '"' ∉ t) →
        (∃ t, m.render event = .ok t) ∧ (m.render event = m.render event' → items = items') := by
  have hValid := valid_of_accept hAccept
  refine ⟨_, activate_default hValid hDefault, ?_⟩
  intro event event' items items' hEvent hEvent' hLength hLength' hScalars hScalars'
  obtain ⟨f, hf, hRender⟩ := render_fillings hValid hEvent hLength hScalars policy
  obtain ⟨f', hf', hRender'⟩ := render_fillings hValid hEvent' hLength' hScalars' policy
  refine ⟨⟨_, hRender⟩, fun hSame => ?_⟩
  have hSpell : spell f (eventRuns s.names) (eventLast s.names)
      = spell f' (eventRuns s.names) (eventLast s.names) :=
    Except.ok.inj ((hRender.symm.trans hSame).trans hRender')
  have hFillings : ∀ run ∈ eventRuns s.names, IsFilling (f run.key) ∧ IsFilling (f' run.key) := by
    rw [forall_eventRuns_iff (P := fun key => IsFilling (f key) ∧ IsFilling (f' key))]
    exact fun a ha => ⟨(hf a ha).1, (hf' a ha).1⟩
  -- equal texts have equal fillings, and a filling tells the value
  have hKeys : ∀ a ∈ s.attributes, f a.key = f' a.key := by
    rw [← forall_eventRuns_iff (P := fun key => f key = f' key)]
    exact spell_inj hFillings (endsValue_tail_eventRuns s.names) endsValue_eventLast hSpell
  apply Stream.items_ext hValid hLength hLength'
  intro a ha
  rw [(hf a ha).2, (hf' a ha).2, hKeys a ha]

theorem render_default_injective_parcels :
    ∃ m, (activate ⟨.bool false, none, .text OutputMapping.jsonType⟩ .parcels none .null).result
        = .ok m
      ∧ (∃ t, m.render (.list [.int 1, .null, .text "\x7d,\\".toList]) = .ok t)
      ∧ m.render (.list [.int 1, .null, .text "\x7d,\\".toList])
        ≠ m.render (.list [.text ['1'], .null, .text "\x7d,\\".toList]) := by
  have hAccept : Stream.parcels.declaration.accept = .ok .parcels := by rfl
  have hDefault : (⟨.bool false, none, .text OutputMapping.jsonType⟩ : OutputMapping).isCustom
      = false := by rfl
  obtain ⟨m, hActive, hRecover⟩ := render_default_injective hAccept hDefault none .null
  have hFits : fitsText 1 = true := by decide +kernel
  have hPlain : '"' ∉ "\x7d,\\".toList ∧ '"' ∉ ['1'] := by decide
  obtain ⟨hSome, hSame⟩ := hRecover (.list [.int 1, .null, .text "\x7d,\\".toList])
    (.list [.text ['1'], .null, .text "\x7d,\\".toList]) _ _ rfl rfl rfl rfl
    (by
      simp only [List.forall_mem_cons]
      exact ⟨hFits, trivial, hPlain.1, by simp⟩)
    (by
      simp only [List.forall_mem_cons]
      exact ⟨hPlain.2, trivial, hPlain.1, by simp⟩)
  refine ⟨m, hActive, hSome, fun h => ?_⟩
  cases hSame h

end EventLoom
