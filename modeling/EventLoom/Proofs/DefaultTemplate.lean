import EventLoom.Proofs.Acceptance
import EventLoom.Proofs.Unquoting
import EventLoom.Template.Render

/-!
# What default templates mean

A default template goes through the writing of JSON, two replacements and the scan for tokens, and
none of them knows of the others. That it comes out as intended is due to the names of the stream:
they are written without escapes, they hold no token, and none of them ends with a closing brace,
which would make a token with the end of its placeholder. Single braces do no harm, although there
are braces all around.

The text is seen as runs (`eventRuns`): behind a comma, or behind what opens the object of a group,
the name of an attribute between its quotes, a colon, and the placeholder. Whatever stands in a
literal is a usable name or one of a few fixed texts, and a quote always stands at the seam, so that
no token comes about there (`tokenless_memberLead`).

## Results

* `write_eventObject` — an event's JSON is the text of its runs, whatever the placeholders become.
* `defaultTemplateOf_eq` — for usable names, the default template is the text of the runs.
* `compile_defaultTemplateOf` — and it compiles to these runs.
* `validate_eq_ok_iff` — which templates are valid for a table of positions.
* `compile_defaultTemplate_complete` — the default template of an accepted stream is valid, names
  every attribute, and is the JSON of the event with the quotes taken off.
-/

namespace EventLoom

open Text

-- ---------------------------------------------------------------------------
-- An event as runs
-- ---------------------------------------------------------------------------

/-- The runs of a group's members. The first literal begins with `start`, the others with a
comma. -/
def memberRuns (g : Group) (start : Text) : List Text → List Run
  | [] => []
  | name :: rest =>
    ⟨start ++ Json.writeText name ++ [':'], Attribute.key ⟨name, g⟩⟩ :: memberRuns g [','] rest

/-- What opens the object of a group, behind what comes before it. -/
def groupStart (start : Text) (g : Group) : Text := start ++ Json.writeText g.tag ++ [':', '{']

/-- The runs of some groups. The first literal begins with `start`; those of the later groups close
the object of the group before. -/
def groupRuns (names : Group → List Text) (start : Text) : List Group → List Run
  | [] => []
  | g :: rest => memberRuns g (groupStart start g) (names g) ++ groupRuns names ['}', ','] rest

/-- What an event begins with. -/
def eventStart : Text := '{' :: Json.writeText eventTag ++ [':', '{']

/-- The groups that have any names. -/
def presentGroups (names : Group → List Text) : List Group :=
  Group.all.filter fun g => !(names g).isEmpty

/-- The runs of an event. -/
def eventRuns (names : Group → List Text) : List Run :=
  groupRuns names eventStart (presentGroups names)

/-- The last literal of an event. If there are no groups it is the only one. -/
def eventLast (names : Group → List Text) : Text :=
  if presentGroups names = [] then eventStart ++ ['}', '}'] else ['}', '}', '}']

/-- The template of an event. -/
def eventTemplate (names : Group → List Text) : Template :=
  .ofRuns (eventRuns names) (eventLast names)

theorem keys_memberRuns (g : Group) (start : Text) (names : List Text) :
    (memberRuns g start names).map Run.key = names.map fun name => Attribute.key ⟨name, g⟩ := by
  induction names generalizing start with
  | nil => rfl
  | cons name rest ih => rw [memberRuns, List.map_cons, List.map_cons, ih]

theorem keys_groupRuns (names : Group → List Text) (start : Text) (groups : List Group) :
    (groupRuns names start groups).map Run.key
      = groups.flatMap fun g => (names g).map fun name => Attribute.key ⟨name, g⟩ := by
  induction groups generalizing start with
  | nil => rfl
  | cons g rest ih => rw [groupRuns, List.map_append, keys_memberRuns, ih, List.flatMap_cons]

/-- The keys of an event's runs are the keys of all attributes in layout order. -/
theorem keys_eventRuns (s : Stream) :
    (eventRuns s.names).map Run.key = s.attributes.map Attribute.key := by
  have hEmpty : ∀ groups : List Group,
      (groups.filter fun g => !(s.names g).isEmpty).flatMap
          (fun g => (s.names g).map fun name => Attribute.key ⟨name, g⟩)
        = groups.flatMap fun g => (s.names g).map fun name => Attribute.key ⟨name, g⟩ := by
    -- a group without names has no keys to leave out
    intro groups
    induction groups with
    | nil => rfl
    | cons g rest ih =>
      rw [List.filter_cons, List.flatMap_cons, ← ih]
      split
      · rw [List.flatMap_cons]
      · rename_i hNone
        have hNames : s.names g = [] := by simpa using hNone
        rw [hNames, List.map_nil, List.nil_append]
  rw [eventRuns, keys_groupRuns, presentGroups, hEmpty, Stream.attributes, List.map_flatMap]
  simp only [List.map_map, Function.comp_def]

-- ---------------------------------------------------------------------------
-- An event as JSON
-- ---------------------------------------------------------------------------

section Writing

variable (f : Text → Text) (names : Group → List Text)

/-- A member of a group's object, with `f` saying how its placeholder is written. -/
def memberText (g : Group) (name : Text) : Text :=
  Json.writeText name ++ [':'] ++ f (Attribute.key ⟨name, g⟩)

/-- A group as a member of an event's object. -/
def groupText (g : Group) : Text :=
  Json.writeText g.tag ++ [':', '{'] ++ join [','] ((names g).map (memberText f g)) ++ ['}']

theorem spell_memberRuns (g : Group) (start last : Text) {list : List Text} (h : list ≠ []) :
    spell f (memberRuns g start list) last
      = start ++ join [','] (list.map (memberText f g)) ++ last := by
  induction list generalizing start with
  | nil => exact absurd rfl h
  | cons name rest ih =>
    rw [memberRuns, spell_cons, List.map_cons]
    -- a comma stands between two members, and none behind the last
    by_cases hRest : rest = []
    · subst hRest
      rw [memberRuns, spell_nil]
      simp only [List.map_nil, join, memberText, List.append_assoc]
    · have hMap : rest.map (memberText f g) ≠ [] := by simpa using hRest
      rw [ih [','] hRest, join_cons_of_ne_nil hMap, memberText]
      simp only [List.append_assoc]

theorem spell_groupRuns (start last : Text) {groups : List Group} (h : groups ≠ [])
    (hNames : ∀ g ∈ groups, names g ≠ []) :
    spell f (groupRuns names start groups) ('}' :: last)
      = start ++ join [','] (groups.map (groupText f names)) ++ last := by
  induction groups generalizing start with
  | nil => exact absurd rfl h
  | cons g rest ih =>
    obtain ⟨hHere, hLater⟩ := List.forall_mem_cons.mp hNames
    rw [groupRuns, spell_append, spell_memberRuns f g _ _ hHere, List.map_cons, groupStart]
    by_cases hRest : rest = []
    · subst hRest
      rw [groupRuns, spell_nil]
      simp only [List.map_nil, join, groupText, List.append_assoc, List.cons_append,
        List.nil_append]
    · have hMap : rest.map (groupText f names) ≠ [] := by simpa using hRest
      rw [ih ['}', ','] hRest hLater, join_cons_of_ne_nil hMap, groupText]
      simp only [List.append_assoc, List.cons_append, List.nil_append]

end Writing

/-- **An event's JSON** is the text of its runs, where every placeholder is written as the content
of its attribute. -/
theorem write_eventObject {f : Text → Text} {content : Attribute → Value}
    {names : Group → List Text}
    (hContent : ∀ g, ∀ name ∈ names g,
      Json.write .compact (content ⟨name, g⟩) = f (Attribute.key ⟨name, g⟩)) :
    Json.write .compact (eventObject content names)
      = spell f (eventRuns names) (eventLast names) := by
  have hGroup : ∀ g, Json.writeText g.tag ++ [':']
        ++ Json.write .compact (groupObject content g (names g)) = groupText f names g := by
    intro g
    have hMembers : (names g).map (fun name => Json.writeText name ++ [':']
        ++ Json.write .compact (content ⟨name, g⟩)) = (names g).map (memberText f g) :=
      List.map_congr_left fun name hName => by rw [hContent g name hName, memberText]
    rw [groupObject, Json.write_ofTable, List.map_map, groupText, ← hMembers]
    simp [Json.Style.compact, Function.comp_def]
  have hWrite : Json.write .compact (eventObject content names)
      = eventStart ++ join [','] ((presentGroups names).map (groupText f names)) ++ ['}', '}'] := by
    have hGroups : (presentGroups names).map (fun g => Json.writeText g.tag ++ [':']
        ++ Json.write .compact (groupObject content g (names g)))
          = (presentGroups names).map (groupText f names) :=
      List.map_congr_left fun g _ => hGroup g
    rw [eventObject, Json.write_ofTable, ← presentGroups, List.map_singleton, join, Json.write_ofTable,
      List.map_map, ← hGroups]
    simp [Json.Style.compact, eventStart, Function.comp_def]
  rw [hWrite, eventRuns, eventLast]
  by_cases hNone : presentGroups names = []
  · rw [hNone, if_pos rfl, groupRuns, spell_nil, List.map_nil, join, List.append_nil]
  · have hNames : ∀ g ∈ presentGroups names, names g ≠ [] := by
      intro g hg
      simpa using (List.mem_filter.mp hg).2
    rw [if_neg hNone, spell_groupRuns f names eventStart ['}', '}'] hNone hNames]

-- ---------------------------------------------------------------------------
-- Usable names
-- ---------------------------------------------------------------------------

theorem isPlaceholderSafe_iff {name : Text} :
    isPlaceholderSafe name = true ↔
      ¬ openToken <:+: name ∧ IsKey name ∧ name.all Json.isPlainChar = true := by
  rw [isPlaceholderSafe, ← Json.escape_eq_self_iff, IsKey, ← hasToken_eq_false_iff,
    ← hasToken_eq_false_iff]
  simp [and_assoc]

namespace IsUsableName

variable {name : Text}

theorem unopened (h : IsUsableName name) : ¬ openToken <:+: name :=
  (isPlaceholderSafe_iff.mp h.2).1

theorem isKey (h : IsUsableName name) : IsKey name :=
  (isPlaceholderSafe_iff.mp h.2).2.1

theorem plain (h : IsUsableName name) : name.all Json.isPlainChar = true :=
  (isPlaceholderSafe_iff.mp h.2).2.2

theorem writeText_eq (h : IsUsableName name) : Json.writeText name = '"' :: name ++ ['"'] := by
  rw [Json.writeText, Json.escape_of_plain h.plain]

/-- The characters before the name in a key need no escapes either. -/
theorem plain_key {g : Group} (h : IsUsableName name) :
    (Attribute.key ⟨name, g⟩).all Json.isPlainChar = true := by
  have hLead : g.keyLead.all Json.isPlainChar = true := by
    cases g <;> decide
  rw [Attribute.key, List.all_append, hLead, h.plain, Bool.and_self]

theorem quote_not_mem_key {g : Group} (h : IsUsableName name) :
    '"' ∉ Attribute.key ⟨name, g⟩ := by
  intro hIn
  have hPlain := List.all_eq_true.mp h.plain_key '"' hIn
  revert hPlain
  decide

/-- A key is closed by the end of its placeholder and by nothing before that. -/
theorem isKey_key {g : Group} (h : IsUsableName name) : IsKey (Attribute.key ⟨name, g⟩) := by
  have hBrace : '}' ∉ g.keyLead := by
    cases g <;> decide
  refine ⟨?_, ?_⟩
  · intro hClose
    exact h.isKey.1 (infix_of_infix_append_left hBrace hClose)
  · -- the name is not empty, so the key ends as the name does
    rw [Attribute.key, List.getLast?_append, List.getLast?_eq_some_getLast h.1, Option.some_or,
      ← List.getLast?_eq_some_getLast h.1]
    exact h.isKey.2

/-- A placeholder is written between quotes, as it is. -/
theorem writeText_placeholder {g : Group} (h : IsUsableName name) :
    Json.writeText (placeholder (Attribute.key ⟨name, g⟩))
      = quotedPlaceholder (Attribute.key ⟨name, g⟩) := by
  have hPlain : (placeholder (Attribute.key ⟨name, g⟩)).all Json.isPlainChar = true := by
    rw [placeholder, List.all_append, List.all_append, h.plain_key]
    decide
  rw [Json.writeText, Json.escape_of_plain hPlain, quotedPlaceholder]

end IsUsableName

-- ---------------------------------------------------------------------------
-- Literals without tokens
-- ---------------------------------------------------------------------------

/-- Neither of the tokens stands in the text. -/
def Tokenless (t : Text) : Prop := ¬ openToken <:+: t ∧ ¬ closeToken <:+: t

theorem tokenless_of_hasToken {t : Text}
    (h : hasToken openToken t = false ∧ hasToken closeToken t = false) : Tokenless t :=
  ⟨hasToken_eq_false_iff.mp h.1, hasToken_eq_false_iff.mp h.2⟩

/-- No token comes about at a seam where the second text begins with neither brace. -/
theorem Tokenless.append {a b : Text} (ha : Tokenless a) (hb : Tokenless b)
    (hSeam : b.head? ≠ some '{' ∧ b.head? ≠ some '}') : Tokenless (a ++ b) := by
  rw [Tokenless, openToken, closeToken, pair_infix_append, pair_infix_append, not_or, not_or,
    not_or, not_or]
  exact ⟨⟨ha.1, hb.1, fun h => hSeam.1 h.2⟩, ⟨ha.2, hb.2, fun h => hSeam.2 h.2⟩⟩

/-- A literal in front of a placeholder holds no token if neither what it begins with nor the name
in it does. -/
theorem tokenless_memberLead {start name : Text} (hStart : Tokenless start)
    (hName : IsUsableName name) : Tokenless (start ++ Json.writeText name ++ [':']) := by
  have hTail : Tokenless (name ++ ['"', ':']) :=
    Tokenless.append ⟨hName.unopened, hName.isKey.1⟩ (tokenless_of_hasToken (by decide))
      (by decide)
  -- no token begins with a quote
  have hQuoted : Tokenless (['"'] ++ (name ++ ['"', ':'])) := by
    have hQuote : ∀ c : Char, c ≠ '"' → [c, c] <:+: ['"'] ++ (name ++ ['"', ':']) →
        [c, c] <:+: name ++ ['"', ':'] := fun c hc =>
      infix_of_infix_append_left (by simpa using hc)
    exact ⟨fun h => hTail.1 (hQuote '{' (by decide) h),
      fun h => hTail.2 (hQuote '}' (by decide) h)⟩
  have hWhole : start ++ Json.writeText name ++ [':']
      = start ++ (['"'] ++ (name ++ ['"', ':'])) := by
    rw [hName.writeText_eq]
    simp
  rw [hWhole]
  exact hStart.append hQuoted (by simp)

theorem tokenless_groupStart {start : Text} (hStart : start = eventStart ∨ start = ['}', ','])
    (g : Group) : Tokenless (groupStart start g) := by
  apply tokenless_of_hasToken
  rcases hStart with rfl | rfl <;> cases g <;> decide

/-- What has to hold of a run for its placeholder to be found, with its quotes and without. -/
structure Run.Sound (run : Run) : Prop where
  quotable : run.Quotable
  isLead : IsLead run.lead
  isKey : IsKey run.key

theorem sound_memberRun {start name : Text} {g : Group} (hStart : Tokenless start)
    (hName : IsUsableName name) :
    Run.Sound ⟨start ++ Json.writeText name ++ [':'], Attribute.key ⟨name, g⟩⟩ := by
  have hLead := tokenless_memberLead hStart hName
  refine ⟨⟨hLead.1, ?_, hName.quote_not_mem_key⟩, ⟨hLead.1, ?_⟩, hName.isKey_key⟩
  · intro hClose
    exact hLead.2 ((List.prefix_append closeToken ['"']).isInfix.trans hClose)
  · rw [List.getLast?_concat]
    decide

theorem sound_memberRuns {g : Group} {start : Text} {names : List Text} (hStart : Tokenless start)
    (hNames : ∀ name ∈ names, IsUsableName name) : ∀ run ∈ memberRuns g start names, run.Sound := by
  induction names generalizing start with
  | nil => simp [memberRuns]
  | cons name rest ih =>
    obtain ⟨hName, hRest⟩ := List.forall_mem_cons.mp hNames
    rw [memberRuns, List.forall_mem_cons]
    exact ⟨sound_memberRun hStart hName, ih (tokenless_of_hasToken (by decide)) hRest⟩

theorem sound_groupRuns {names : Group → List Text} {start : Text} {groups : List Group}
    (hStart : start = eventStart ∨ start = ['}', ','])
    (hNames : ∀ g, ∀ name ∈ names g, IsUsableName name) :
    ∀ run ∈ groupRuns names start groups, run.Sound := by
  induction groups generalizing start with
  | nil => simp [groupRuns]
  | cons g rest ih =>
    rw [groupRuns, List.forall_mem_append]
    exact ⟨sound_memberRuns (tokenless_groupStart hStart g) (hNames g), ih (.inr rfl)⟩

theorem sound_eventRuns {names : Group → List Text}
    (hNames : ∀ g, ∀ name ∈ names g, IsUsableName name) : ∀ run ∈ eventRuns names, run.Sound :=
  sound_groupRuns (.inl rfl) hNames

theorem eventLast_unopened (names : Group → List Text) : ¬ openToken <:+: eventLast names := by
  rw [← hasToken_eq_false_iff, eventLast]
  split <;> decide

theorem eventLast_unclosed (names : Group → List Text) : ¬ quotedClose <:+: eventLast names := by
  rw [← hasToken_eq_false_iff, eventLast]
  split <;> decide

-- ---------------------------------------------------------------------------
-- The default template
-- ---------------------------------------------------------------------------

section Names

variable {names : Group → List Text} (hNames : ∀ g, ∀ name ∈ names g, IsUsableName name)
include hNames

/-- The JSON that the default template is made of has every placeholder between quotes. -/
theorem write_placeholders :
    Json.write .compact (eventObject (fun a => .text (placeholder a.key)) names)
      = (eventTemplate names).filled quotedPlaceholder := by
  rw [eventTemplate, Template.filled_ofRuns]
  apply write_eventObject
  intro g name hName
  rw [Json.write]
  exact (hNames g name hName).writeText_placeholder

/-- **The default template for usable names** is that JSON with the quotes taken off the
placeholders, and nothing else. -/
theorem defaultTemplateOf_eq : defaultTemplateOf names = (eventTemplate names).written := by
  have hSound := sound_eventRuns hNames
  rw [defaultTemplateOf, write_placeholders hNames, Template.written_eq_filled, eventTemplate,
    Template.filled_ofRuns, Template.filled_ofRuns]
  exact unquotePlaceholders_spell (fun run hRun => (hSound run hRun).quotable)
    (eventLast_unopened names) (eventLast_unclosed names)

theorem compile_defaultTemplateOf :
    Template.compile (defaultTemplateOf names) = .ok (eventTemplate names) := by
  have hSound := sound_eventRuns hNames
  rw [defaultTemplateOf_eq hNames]
  apply Template.compile_written
  exact Template.canonical_ofRuns (fun run hRun => ⟨(hSound run hRun).isLead,
    (hSound run hRun).isKey⟩) (eventLast_unopened names)

end Names

-- ---------------------------------------------------------------------------
-- Accepted streams
-- ---------------------------------------------------------------------------

theorem Template.validate_eq_ok_iff {t : Template} {positions : Entries} {streamId : Value} :
    t.validate positions streamId = .ok () ↔
      ∀ key ∈ t.keys, ∃ position, Table.get? positions (.text key) = some position := by
  rw [validate]
  split
  · rename_i key hFind
    have hNone := List.find?_some hFind
    simp only [reduceCtorEq, false_iff]
    intro h
    obtain ⟨position, hPosition⟩ := h key (List.mem_of_find?_eq_some hFind)
    simp [hPosition] at hNone
  · rename_i hFind
    simp only [true_iff]
    intro key hKey
    have hSome := List.find?_eq_none.mp hFind key hKey
    exact Option.ne_none_iff_exists'.mp (by simpa using hSome)

/-- Every attribute's key has a position. -/
theorem exists_position_of_attribute {s : Stream} (h : s.Valid) {a : Attribute}
    (ha : a ∈ s.attributes) :
    ∃ position, Table.get? (Positions.ofStream s).entries (.text a.key) = some position := by
  obtain ⟨position, hPosition⟩ := List.mem_iff_getElem?.mp ha
  refine ⟨.int position, (get?_ofStream_iff h).mpr ⟨position, ?_, rfl⟩⟩
  exact mem_placeholderKeys_iff.mpr ⟨a, hPosition, .inl rfl⟩

namespace Stream

/-- A stream has the attributes that its groups name. -/
theorem mem_attributes_iff {s : Stream} {a : Attribute} :
    a ∈ s.attributes ↔ a.name ∈ s.names a.group := by
  have hGroup : a.group ∈ Group.all := by
    cases a.group <;> decide
  rw [attributes, List.mem_flatMap]
  constructor
  · rintro ⟨g, -, hMem⟩
    obtain ⟨name, hName, rfl⟩ := List.mem_map.mp hMem
    exact hName
  · intro hName
    exact ⟨a.group, hGroup, List.mem_map.mpr ⟨a.name, hName, rfl⟩⟩

theorem Valid.usable {s : Stream} (h : s.Valid) :
    ∀ g, ∀ name ∈ s.names g, IsUsableName name := by
  intro g name hName
  exact h.names_usable ⟨name, g⟩ (mem_attributes_iff.mpr hName)

theorem compile_defaultTemplate {s : Stream} (h : s.Valid) :
    Template.compile s.defaultTemplate = .ok (eventTemplate s.names) :=
  compile_defaultTemplateOf h.usable

theorem keys_eventTemplate (s : Stream) :
    (eventTemplate s.names).keys = s.attributes.map Attribute.key := by
  rw [eventTemplate, Template.keys_ofRuns, keys_eventRuns]

/-- The default template of a valid stream passes the check that it is spared. -/
theorem validate_eventTemplate {s : Stream} (h : s.Valid) (streamId : Value) :
    (eventTemplate s.names).validate (Positions.ofStream s).entries streamId = .ok () := by
  rw [Template.validate_eq_ok_iff, keys_eventTemplate, List.forall_mem_map]
  exact fun a ha => exists_position_of_attribute h ha

/-- **Default templates are complete and valid.** The default template of an accepted stream
compiles. Its keys are those of the stream's attributes in layout order, all of them have positions,
and the text is the JSON of the event with the quotes taken off the placeholders and nothing
else: with every placeholder between quotes the template is that JSON. -/
theorem compile_defaultTemplate_complete {d : Declaration} {s : Stream} (h : d.accept = .ok s) :
    ∃ t, Template.compile s.defaultTemplate = .ok t
      ∧ t.keys = s.attributes.map Attribute.key
      ∧ t.validate (Positions.ofStream s).entries (.text s.id) = .ok ()
      ∧ t.filled placeholder = s.defaultTemplate
      ∧ t.filled quotedPlaceholder
        = Json.write .compact (eventObject (fun a => .text (placeholder a.key)) s.names) := by
  have hValid := valid_of_accept h
  refine ⟨eventTemplate s.names, compile_defaultTemplate hValid, keys_eventTemplate s,
    validate_eventTemplate hValid _, ?_, (write_placeholders hValid.usable).symm⟩
  rw [← Template.written_eq_filled, ← defaultTemplateOf_eq hValid.usable, defaultTemplate]

/-- A stream with a single brace at every place of a name where one may stand. -/
def braced : Stream :=
  ⟨.text "orders".toList, .text "2".toList, ["a\x7b".toList], ["\x7bc".toList],
    ["\x7db".toList, "q\x7br".toList, "\x7b".toList]⟩

theorem compile_defaultTemplate_braced :
    braced.declaration.accept = .ok braced ∧
      ∃ t, Template.compile braced.defaultTemplate = .ok t
        ∧ t.keys = ["meta_a\x7b".toList, "correlation_\x7bc".toList, "\x7db".toList,
          "q\x7br".toList, "\x7b".toList] := by
  have hAccept : braced.declaration.accept = .ok braced := by rfl
  obtain ⟨t, hCompile, hKeys, -⟩ := compile_defaultTemplate_complete hAccept
  refine ⟨hAccept, t, hCompile, ?_⟩
  rw [hKeys]
  rfl

end Stream

end EventLoom
