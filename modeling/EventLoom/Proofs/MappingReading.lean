import EventLoom.Proofs.MappingRecord

/-!
# Which mapping a record holds

Four members of a record say what mapping it holds, and each of them may be of any kind or missing.
They are not looked at one by one. The flag comes first, and if it says that the mapping is not
custom, only the type is still asked for. Otherwise two sources are refused ahead of everything
else, then comes the type, and then whether there is a source at all and anything in it. `Holds`
puts this down as a table of outcomes, each with all that has to be so for it.

All that is kept of a record is what the outcome needs, as words and texts: neither the spelling of
the flag nor the kind of a source comes back in the mapping's own record. So that record is read as
the same mapping again.

## Results

* `readFlag_of_states`, `readSource_of_gives` — what the flag and the sources of a record say.
* `holds_cases` — the table has an outcome for every record.
* `ofRecord_of_holds` — and it is what comes of reading the record.
* `ofRecord_eq_iff_holds` — the table decides, its faults are problems of configuration, and what is
  read is read back from its own record.
-/

namespace EventLoom.OutputMapping

open Text

-- ---------------------------------------------------------------------------
-- The members of a record
-- ---------------------------------------------------------------------------

/-- The members of a record that say what mapping it holds. -/
structure Members where
  flag : Value
  type : Value
  inline : Value
  registry : Value

/-- The members of a record. The type is the one there is if it is not stated, and any other member
that is not stated is null. -/
def membersOf (record : Entries) : Members where
  flag := memberOf record "customMapping".toList
  type := (Table.get? record (.text "type".toList)).getD (.text jsonType)
  inline := memberOf record "inline".toList
  registry := memberOf record "registry".toList

/-- All of the members have a text. -/
structure Members.Writable (members : Members) : Prop where
  flag : members.flag.hasText = true
  type : members.type.hasText = true
  inline : members.inline.hasText = true
  registry : members.registry.hasText = true

/-- A flag has to be read as a word if it is neither null nor a truth value. -/
def IsWorded (flag : Value) : Prop := flag ≠ .null ∧ ∀ b, flag ≠ .bool b

/-- What a flag says of whether a mapping is custom. -/
inductive States : Value → Bool → Prop where
  | unstated : States .null true
  | truth (custom : Bool) : States (.bool custom) custom
  | word {flag : Value} {custom : Bool} (hKind : IsWorded flag)
    (hWord : lower (strip flag.plain) = flagWord custom) : States flag custom

/-- The flag says nothing that is understood. -/
structure StatesNothing (flag : Value) : Prop where
  worded : IsWorded flag
  word_ne : ∀ custom, lower (strip flag.plain) ≠ flagWord custom

/-- The source that the members of a record give. -/
inductive Members.Gives (members : Members) : Option Source → Prop where
  | nothing (hInline : members.inline = .null) (hRegistry : members.registry = .null) :
      Gives members none
  | inline (hInline : members.inline ≠ .null) (hRegistry : members.registry = .null) :
      Gives members (some (.inline (.text members.inline.plain)))
  | registry (hInline : members.inline = .null) (hRegistry : members.registry ≠ .null) :
      Gives members (some (.registry (.text members.registry.plain)))

/-- There are two sources. -/
def Members.GivesTwo (members : Members) : Prop :=
  members.inline ≠ .null ∧ members.registry ≠ .null

/-- What comes of the members of a record. -/
inductive Holds (members : Members) : Except Fault OutputMapping → Prop where
  | badFlag (hFlag : StatesNothing members.flag) : Holds members (.error (.badFlag members.flag))
  | defaultOfType (hFlag : States members.flag false) (hType : members.type.plain ≠ jsonType) :
      Holds members (.error (.unsupportedType (.text members.type.plain)))
  | default (hFlag : States members.flag false) (hType : members.type.plain = jsonType) :
      Holds members (.ok ⟨.bool false, none, .text jsonType⟩)
  | twoSources (hFlag : States members.flag true) (hTwo : members.GivesTwo) :
      Holds members (.error .twoSources)
  | customOfType (hFlag : States members.flag true) (hOne : ¬ members.GivesTwo)
      (hType : members.type.plain ≠ jsonType) :
      Holds members (.error (.unsupportedType (.text members.type.plain)))
  | sourceless (hFlag : States members.flag true) (hSource : members.Gives none)
      (hType : members.type.plain = jsonType) : Holds members (.error .missingSource)
  | blank {source : Source} {t : Text} (hFlag : States members.flag true)
      (hSource : members.Gives (some source)) (hType : members.type.plain = jsonType)
      (hText : source.content = .text t) (hBlank : ∀ c ∈ t, isBlankChar c = true) :
      Holds members (.error .blankSource)
  | custom {source : Source} {t : Text} (hFlag : States members.flag true)
      (hSource : members.Gives (some source)) (hType : members.type.plain = jsonType)
      (hText : source.content = .text t) (hNonblank : ¬ ∀ c ∈ t, isBlankChar c = true) :
      Holds members (.ok ⟨.bool true, some source, .text jsonType⟩)

-- ---------------------------------------------------------------------------
-- The flag
-- ---------------------------------------------------------------------------

theorem written_of_hasText {v : Value} (h : v.hasText = true) : v.written = .ok v.plain := by
  rw [Value.written, if_pos h]

theorem flagWord_injective {custom custom' : Bool} (h : flagWord custom = flagWord custom') :
    custom = custom' :=
  Except.ok.inj ((readFlag_flagWord custom).symm.trans (h ▸ readFlag_flagWord custom'))

theorem states_or_statesNothing (flag : Value) :
    (∃ custom, States flag custom) ∨ StatesNothing flag := by
  by_cases hKind : IsWorded flag
  · by_cases hWord : ∃ custom, lower (strip flag.plain) = flagWord custom
    · obtain ⟨custom, hWord⟩ := hWord
      exact .inl ⟨custom, .word hKind hWord⟩
    · exact .inr ⟨hKind, not_exists.mp hWord⟩
  · cases flag with
    | null => exact .inl ⟨true, .unstated⟩
    | bool b => exact .inl ⟨b, .truth b⟩
    | _ => exact absurd ⟨nofun, nofun⟩ hKind

/-- A flag that is neither null nor a truth value is read by its word. -/
theorem readFlag_of_isWorded {flag : Value} (hKind : IsWorded flag) (hText : flag.hasText = true) :
    readFlag flag = if lower (strip flag.plain) = flagWord true then .ok true
      else if lower (strip flag.plain) = flagWord false then .ok false
      else .error (.badFlag flag) := by
  have hRead : readFlag flag = (flag.written >>= fun t =>
      if lower (strip t) = flagWord true then .ok true
      else if lower (strip t) = flagWord false then .ok false else .error (.badFlag flag)) := by
    cases flag with
    | null => exact absurd rfl hKind.1
    | bool b => exact absurd rfl (hKind.2 b)
    | _ => rfl
  rw [hRead, written_of_hasText hText]
  rfl

theorem readFlag_of_states {flag : Value} (hText : flag.hasText = true) {custom : Bool}
    (h : States flag custom) : readFlag flag = .ok custom := by
  cases h with
  | unstated => rfl
  | truth => rfl
  | word hKind hWord =>
    rw [readFlag_of_isWorded hKind hText, hWord]
    cases custom with
    | true => rw [if_pos rfl]
    | false =>
      have hOther : flagWord false ≠ flagWord true := fun hEq => nomatch flagWord_injective hEq
      rw [if_neg hOther, if_pos rfl]

theorem readFlag_of_statesNothing {flag : Value} (hText : flag.hasText = true)
    (h : StatesNothing flag) : readFlag flag = .error (.badFlag flag) := by
  rw [readFlag_of_isWorded h.worded hText, if_neg (h.word_ne true), if_neg (h.word_ne false)]

-- ---------------------------------------------------------------------------
-- The sources
-- ---------------------------------------------------------------------------

theorem Members.gives_or_givesTwo (members : Members) :
    (∃ source, members.Gives source) ∨ members.GivesTwo := by
  by_cases hInline : members.inline = .null
  · by_cases hRegistry : members.registry = .null
    · exact .inl ⟨_, .nothing hInline hRegistry⟩
    · exact .inl ⟨_, .registry hInline hRegistry⟩
  · by_cases hRegistry : members.registry = .null
    · exact .inl ⟨_, .inline hInline hRegistry⟩
    · exact .inr ⟨hInline, hRegistry⟩

/-- The source of a record holds the text of its member. -/
theorem Members.Gives.exists_text {members : Members} {source : Source}
    (h : members.Gives (some source)) : ∃ t, source.content = .text t := by
  cases h <;> exact ⟨_, rfl⟩

section Sources

variable {record : Entries}

/-- A record without two sources gives the one that there is. -/
theorem readSource_of_gives (hText : (membersOf record).Writable) {source : Option Source}
    (h : (membersOf record).Gives source) : readSource record = .ok source := by
  have hInlineText : (memberOf record "inline".toList).written
      = .ok (membersOf record).inline.plain := written_of_hasText hText.inline
  have hRegistryText : (memberOf record "registry".toList).written
      = .ok (membersOf record).registry.plain := written_of_hasText hText.registry
  rw [readSource]
  split
  case h_1 hInline hRegistry =>
    cases h with
    | nothing => rfl
    | inline hOther => exact absurd hInline hOther
    | registry _ hOther => exact absurd hRegistry hOther
  case h_2 hInline hStated =>
    cases h with
    | nothing _ hRegistry => exact absurd hRegistry hStated
    | inline hOther => exact absurd hInline hOther
    | registry =>
      rw [hRegistryText]
      rfl
  case h_3 hRegistry hStated =>
    cases h with
    | nothing hInline => exact absurd hInline hStated
    | registry hInline => exact absurd hInline hStated
    | inline =>
      rw [hInlineText]
      rfl
  case h_4 hInlineStated hRegistryStated hNone =>
    cases h with
    | nothing hInline hRegistry => exact absurd hRegistry (hNone hInline)
    | inline _ hRegistry => exact absurd hRegistry hRegistryStated
    | registry hInline => exact absurd hInline hInlineStated

theorem readSource_of_givesTwo (h : (membersOf record).GivesTwo) :
    readSource record = .error .twoSources := by
  rw [readSource]
  split
  · exact absurd ‹_› h.1
  · exact absurd ‹_› h.1
  · exact absurd ‹_› h.2
  · rfl

-- ---------------------------------------------------------------------------
-- The record
-- ---------------------------------------------------------------------------

/-- Behind its flag, a record is read for its source, if it is custom, and is then checked. -/
theorem ofRecord_of_flag (hText : (membersOf record).Writable) {custom : Bool}
    (hFlag : readFlag (membersOf record).flag = .ok custom) :
    ofRecord (.dict record)
      = ((if custom then readSource record else .ok none) >>= fun source =>
        check ⟨.bool custom, source, .text (membersOf record).type.plain⟩) := by
  have hType : ((Table.get? record (.text "type".toList)).getD (.text jsonType)).written
      = .ok (membersOf record).type.plain := written_of_hasText hText.type
  rw [ofRecord]
  show (readFlag (membersOf record).flag >>= _) = _
  rw [hFlag]
  show (((Table.get? record (.text "type".toList)).getD (.text jsonType)).written >>= _) = _
  rw [hType]
  cases custom <;> rfl

theorem ofRecord_of_badFlag {fault : Fault}
    (hFlag : readFlag (membersOf record).flag = .error fault) :
    ofRecord (.dict record) = .error fault := by
  rw [ofRecord]
  show (readFlag (membersOf record).flag >>= _) = _
  rw [hFlag]
  rfl

theorem check_of_type_ne {custom : Value} {source : Option Source} {type : Text}
    (hType : type ≠ jsonType) :
    check ⟨custom, source, .text type⟩ = .error (.unsupportedType (.text type)) := by
  have hText : (Value.text type).asText? ≠ some jsonType := fun h => hType (Option.some.inj h)
  rw [check, if_pos hText]

theorem isBlankContent_text (t : Text) : isBlankContent (.text t) = .ok (isBlank t) := by
  cases t <;> rfl

/-- A custom mapping with a source that holds a text is accepted if there is something in it. -/
theorem check_of_source {source : Source} {t : Text} (hText : source.content = .text t) :
    check ⟨.bool true, some source, .text jsonType⟩
      = if isBlank t then .error .blankSource
        else .ok ⟨.bool true, some source, .text jsonType⟩ := by
  have hContent : isBlankContent source.content = .ok (isBlank t) := by
    rw [hText, isBlankContent_text]
  have hType : ¬ (Value.text jsonType).asText? ≠ some jsonType := fun h => h rfl
  have hCustom : ¬ (!(isCustom ⟨.bool true, some source, .text jsonType⟩)) = true :=
    Bool.false_ne_true
  rw [check, if_neg hType, if_neg hCustom]
  simp only [hContent]
  cases isBlank t <;> rfl

/-- **What the table says** is what comes of reading the record. -/
theorem ofRecord_of_holds (hText : (membersOf record).Writable)
    {outcome : Except Fault OutputMapping} (h : Holds (membersOf record) outcome) :
    ofRecord (.dict record) = outcome := by
  have hRead {custom : Bool} (hFlag : States (membersOf record).flag custom) :=
    ofRecord_of_flag hText (readFlag_of_states hText.flag hFlag)
  have hSource {source : Option Source} (hGives : (membersOf record).Gives source) :=
    readSource_of_gives hText hGives
  cases h with
  | badFlag hFlag => exact ofRecord_of_badFlag (readFlag_of_statesNothing hText.flag hFlag)
  | defaultOfType hFlag hType =>
    rw [hRead hFlag]
    exact check_of_type_ne hType
  | default hFlag hType =>
    rw [hRead hFlag, hType]
    rfl
  | twoSources hFlag hTwo =>
    rw [hRead hFlag, if_pos rfl, readSource_of_givesTwo hTwo]
    rfl
  | customOfType hFlag hOne hType =>
    obtain ⟨source, hGives⟩ := (membersOf record).gives_or_givesTwo.resolve_right hOne
    rw [hRead hFlag, if_pos rfl, hSource hGives]
    exact check_of_type_ne hType
  | sourceless hFlag hGives hType =>
    rw [hRead hFlag, if_pos rfl, hSource hGives, hType]
    rfl
  | blank hFlag hGives hType hContent hBlank =>
    rw [hRead hFlag, if_pos rfl, hSource hGives, hType]
    exact (check_of_source hContent).trans (if_pos (List.all_eq_true.mpr hBlank))
  | custom hFlag hGives hType hContent hNonblank =>
    rw [hRead hFlag, if_pos rfl, hSource hGives, hType]
    exact (check_of_source hContent).trans
      (if_neg fun hBlank => hNonblank (List.all_eq_true.mp hBlank))

end Sources

/-- **The table has an outcome for every record.** -/
theorem holds_cases (members : Members) : ∃ outcome, Holds members outcome := by
  rcases states_or_statesNothing members.flag with ⟨custom, hFlag⟩ | hFlag
  · by_cases hType : members.type.plain = jsonType
    · cases custom with
      | false => exact ⟨_, .default hFlag hType⟩
      | true =>
        rcases members.gives_or_givesTwo with ⟨source, hSource⟩ | hTwo
        · cases source with
          | none => exact ⟨_, .sourceless hFlag hSource hType⟩
          | some source =>
            obtain ⟨t, hText⟩ := hSource.exists_text
            by_cases hBlank : ∀ c ∈ t, isBlankChar c = true
            · exact ⟨_, .blank hFlag hSource hType hText hBlank⟩
            · exact ⟨_, .custom hFlag hSource hType hText hBlank⟩
        · exact ⟨_, .twoSources hFlag hTwo⟩
    · cases custom with
      | false => exact ⟨_, .defaultOfType hFlag hType⟩
      | true =>
        by_cases hTwo : members.GivesTwo
        · exact ⟨_, .twoSources hFlag hTwo⟩
        · exact ⟨_, .customOfType hFlag hTwo hType⟩
  · exact ⟨_, .badFlag hFlag⟩

theorem Holds.isConfiguration {members : Members} {fault : Fault}
    (h : Holds members (.error fault)) : fault.isConfiguration = true := by
  cases h <;> rfl

/-- A mapping that was read says in plain words what it is and has no source that it does not use,
so it is read again from its own record. -/
theorem Holds.ofRecord_toRecord_eq {members : Members} {m : OutputMapping}
    (h : Holds members (.ok m)) : ofRecord (Value.ofTable m.toRecord) = .ok m := by
  cases h with
  | default => rfl
  | @custom source t _ _ _ hContent hNonblank =>
    have hPlain : Plain ⟨.bool true, some source, .text jsonType⟩ :=
      ⟨⟨true, rfl⟩, fun _ hSame => ⟨t, Option.some.inj hSame ▸ hContent⟩⟩
    have hCheck : check ⟨.bool true, some source, .text jsonType⟩
        = .ok ⟨.bool true, some source, .text jsonType⟩ :=
      (check_of_source hContent).trans
        (if_neg fun hBlank => hNonblank (List.all_eq_true.mp hBlank))
    exact ofRecord_of_check hPlain rfl hCheck

/-- **Which mapping a record holds.** If the members that matter have texts, the table decides what
comes of reading a record, and every fault in it is a problem of configuration. A mapping that is
read is read again from its own record, which stays the same. -/
theorem ofRecord_eq_iff_holds {record : Entries} (hText : (membersOf record).Writable) :
    (∀ outcome, ofRecord (.dict record) = outcome ↔ Holds (membersOf record) outcome)
    ∧ (∀ fault, ofRecord (.dict record) = .error fault → fault.isConfiguration = true)
    ∧ ∀ m, ofRecord (.dict record) = .ok m →
      ofRecord (Value.ofTable m.toRecord) = .ok m
        ∧ (ofRecord (Value.ofTable m.toRecord)).map toRecord = .ok m.toRecord := by
  have hTable (outcome : Except Fault OutputMapping) :
      ofRecord (.dict record) = outcome ↔ Holds (membersOf record) outcome := by
    constructor
    · rintro rfl
      obtain ⟨outcome, hHolds⟩ := holds_cases (membersOf record)
      rw [ofRecord_of_holds hText hHolds]
      exact hHolds
    · exact ofRecord_of_holds hText
  refine ⟨hTable, ?_, ?_⟩
  · intro fault hFault
    exact ((hTable _).mp hFault).isConfiguration
  · intro m hRead
    have hBack := ((hTable _).mp hRead).ofRecord_toRecord_eq
    refine ⟨hBack, ?_⟩
    rw [hBack]
    rfl

/-- A record with an oddly spelled flag and a number for its template. -/
def numberRecord : Entries :=
  [(.text "inline".toList, .int 5), (.text "customMapping".toList, .text "\tEnAbLe ".toList)]

/-- The number is kept as its text, and the flag as its word. -/
theorem ofRecord_numberRecord :
    (membersOf numberRecord).Writable
      ∧ ofRecord (.dict numberRecord)
        = .ok ⟨.bool true, some (.inline (.text ['5'])), .text jsonType⟩
      ∧ ofRecord (Value.ofTable
          (toRecord ⟨.bool true, some (.inline (.text ['5'])), .text jsonType⟩))
        = .ok ⟨.bool true, some (.inline (.text ['5'])), .text jsonType⟩ := by
  have hText : (membersOf numberRecord).Writable := ⟨rfl, rfl, by decide +kernel, rfl⟩
  obtain ⟨hTable, -, hBack⟩ := ofRecord_eq_iff_holds hText
  have hFlag : States (membersOf numberRecord).flag true :=
    .word ⟨nofun, nofun⟩ (by decide +kernel)
  have hFilled : ¬ ∀ c ∈ ['5'], isBlankChar c = true := fun hBlank =>
    absurd (hBlank '5' (List.mem_singleton_self _)) (by decide +kernel)
  have hRead := (hTable _).mpr
    (.custom hFlag (.inline nofun rfl) rfl (t := ['5']) rfl hFilled)
  exact ⟨hText, hRead, (hBack _ hRead).1⟩

end EventLoom.OutputMapping
