import EventLoom.Proofs.Recovery
import EventLoom.Settings.Load
import EventLoom.Settings.TypeForm
import Mathlib.Data.List.Nodup

/-!
# Settings that go through the environment and back

An environment holds nothing but texts, so settings can only be left there for a later load if
every kind of value has a text that reads back as that value. Truth values, integers, texts and
lists of texts have one, and nothing has one beside the first two of them: no truth value and no
integer is written with a word for nothing. A list goes wrong only where an item is not what is
left of it between two commas, so items are not empty, hold no comma, and have no white space at
their ends (`IsItem`).

Each field reads its text by its hint (`decode_written`), under a key that no other field has, so
that neither the other fields nor further variables matter (`get?_environmentOf`). What comes of the
fields is then handed to their class. Loading is thus the same as making the settings with these
values, and a class that does not check its values makes them, unless a field stands in the place
of something that is needed for making any (`hookNames`).

## Results

* `decodeList_join` — a list is read back from its items between commas.
* `decode_written` — the text of a value is read back as the value.
* `holdings_environmentOf` — the fields get their values back.
* `load_environmentOf` — and so does the class.
-/

namespace EventLoom

open Text Number

-- ---------------------------------------------------------------------------
-- Texts
-- ---------------------------------------------------------------------------

namespace Text

theorem dropWhile_of_head {p : Char → Bool} {t : Text} (h : ∀ c ∈ t.head?, p c = false) :
    t.dropWhile p = t := by
  cases t with
  | nil => rfl
  | cons c rest => rw [List.dropWhile_cons_of_neg (by simp [h c rfl])]

/-- A text keeps what is inside of it; only its ends matter. -/
theorem trimBy_of_ends {p : Char → Bool} {t : Text} (hHead : ∀ c ∈ t.head?, p c = false)
    (hLast : ∀ c ∈ t.getLast?, p c = false) : trimBy p t = t := by
  have hBack : t.reverse.dropWhile p = t.reverse := by
    apply dropWhile_of_head
    rwa [List.head?_reverse]
  rw [trimBy, dropWhile_of_head hHead, hBack, List.reverse_reverse]

theorem lower_of_forall {t : Text} (h : ∀ c ∈ t, lowerChar c = [c]) : lower t = t := by
  induction t with
  | nil => rfl
  | cons c rest ih =>
    obtain ⟨hHead, hRest⟩ := List.forall_mem_cons.mp h
    rw [lower, List.flatMap_cons, hHead, ← lower, ih hRest]
    rfl

variable {separator : Char}

theorem cut_of_not_mem {t : Text} (h : separator ∉ t) : cut separator t = [t] := by
  induction t with
  | nil => rfl
  | cons c rest ih =>
    rw [List.mem_cons, not_or] at h
    rw [cut, if_neg (Ne.symm h.1), ih h.2]

theorem cut_append_cons {part : Text} (h : separator ∉ part) (rest : Text) :
    cut separator (part ++ separator :: rest) = part :: cut separator rest := by
  induction part with
  | nil => rw [List.nil_append, cut, if_pos rfl]
  | cons c more ih =>
    rw [List.mem_cons, not_or] at h
    rw [List.cons_append, cut, if_neg (Ne.symm h.1), ih h.2]

/-- Cutting what has been joined gives the parts, if there are any. -/
theorem cut_join {parts : List Text} (hParts : parts ≠ [])
    (h : ∀ part ∈ parts, separator ∉ part) : cut separator (join [separator] parts) = parts := by
  induction parts with
  | nil => contradiction
  | cons part rest ih =>
    obtain ⟨hPart, hRest⟩ := List.forall_mem_cons.mp h
    by_cases hMore : rest = []
    · rw [hMore]
      exact cut_of_not_mem hPart
    · rw [join_cons_of_ne_nil hMore, List.append_assoc]
      show cut separator (part ++ separator :: join [separator] rest) = _
      rw [cut_append_cons hPart, ih hMore hRest]

end Text

-- ---------------------------------------------------------------------------
-- Integers
-- ---------------------------------------------------------------------------

namespace Number

/-- The characters of an integer are not blank and have no case. -/
theorem plain_of_mem_intText {n : Int} {c : Char} (h : c ∈ intText n) :
    isBlankChar c = false ∧ lowerChar c = [c] := by
  rcases mem_intText h with rfl | hDigit
  · decide +kernel
  · obtain ⟨k, hk, rfl⟩ := eq_of_isDigit hDigit
    have hAll : ∀ k < 10, isBlankChar (Char.ofNat (48 + k)) = false
        ∧ lowerChar (Char.ofNat (48 + k)) = [Char.ofNat (48 + k)] := by
      decide +kernel
    exact hAll k hk

theorem integerOfText_intText {n : Int} (h : fitsText n = true) :
    integerOfText (intText n) = .ok n := by
  have hSize : (natText n.natAbs).length ≤ digitLimit :=
    (length_natText_le_iff (by decide)).mpr (fitsText_iff.mp h)
  have hValue := value_intText n
  rw [readNumeral?_intText, Option.map_some, Option.some.injEq] at hValue
  simp only [integerOfText, readNumeral?_intText]
  rw [if_neg (by rw [List.length_map]; omega), if_pos (show Numeral.isWhole _ = true from rfl),
    hValue]

end Number

namespace Settings

-- ---------------------------------------------------------------------------
-- Settings and their texts
-- ---------------------------------------------------------------------------

/-- A setting that has a text. -/
inductive Setting where
  | nothing
  | flag (b : Bool)
  | number (n : Int)
  | text (t : Text)
  | texts (items : List Text)

namespace Setting

/-- The setting as a value. -/
def value : Setting → Value
  | .nothing => .null
  | .flag b => .bool b
  | .number n => .int n
  | .text t => .text t
  | .texts items => .list (items.map .text)

/-- The setting as an environment holds it. -/
def written : Setting → Text
  | .nothing => "none".toList
  | .flag true => "true".toList
  | .flag false => "false".toList
  | .number n => intText n
  | .text t => t
  | .texts items => join [','] items

end Setting

/-- What a field may hold. -/
inductive Kind where
  | flag
  | number
  | text
  | texts
  | flagOrNothing
  | numberOrNothing

/-- A text that is an item of a list as it stands between two commas. -/
structure IsItem (item : Text) : Prop where
  ne_nil : item ≠ []
  no_comma : ',' ∉ item
  head_not_blank : ∀ c ∈ item.head?, isBlankChar c = false
  last_not_blank : ∀ c ∈ item.getLast?, isBlankChar c = false

namespace Kind

/-- The types that are written for the kind. -/
def types : Kind → List Text
  | .flag => ["bool".toList]
  | .number => ["int".toList]
  | .text => ["str".toList]
  | .texts => ["list[str]".toList]
  | .flagOrNothing => ["bool | None".toList, "None | bool".toList]
  | .numberOrNothing => ["int | None".toList, "None | int".toList]

/-- The hint is a type of the kind as it is written, or the hint that the type itself gives. -/
def IsHint (kind : Kind) (hint : Text) : Prop :=
  ∃ type ∈ kind.types, hint = type ∨ hintOfType type = .ok hint

/-- A field of the kind may hold the setting. -/
inductive Admits : Kind → Setting → Prop where
  | flag (b : Bool) : Admits .flag (.flag b)
  | number {n : Int} (h : fitsText n = true) : Admits .number (.number n)
  | text (t : Text) : Admits .text (.text t)
  | texts {items : List Text} (h : ∀ item ∈ items, IsItem item) : Admits .texts (.texts items)
  | noFlag : Admits .flagOrNothing .nothing
  | someFlag (b : Bool) : Admits .flagOrNothing (.flag b)
  | noNumber : Admits .numberOrNothing .nothing
  | someNumber {n : Int} (h : fitsText n = true) : Admits .numberOrNothing (.number n)

/-- The hints that these types give, as they are written or by themselves. -/
def hints : Kind → List Text
  | .texts => ["list[str]".toList, "list".toList]
  | kind => kind.types

/-- Whether there may be nothing. -/
def isOptional : Kind → Bool
  | .flagOrNothing | .numberOrNothing => true
  | _ => false

/-- What may be left of a hint of the kind without the alternative of nothing. -/
def bases : Kind → List Text
  | .flag | .flagOrNothing => ["bool".toList]
  | .number | .numberOrNothing => ["int".toList]
  | .text => ["str".toList]
  | .texts => ["list[str]".toList, "list".toList]

theorem IsHint.mem_hints {kind : Kind} {hint : Text} (h : kind.IsHint hint) :
    hint ∈ kind.hints := by
  have hWritten : ∀ type ∈ kind.types, type ∈ kind.hints := by
    cases kind <;> decide
  have hOwn : ∀ type ∈ kind.types, ∃ own ∈ kind.hints,
      (hintOfType type).toOption = some own := by
    cases kind <;> decide +kernel
  obtain ⟨type, hType, rfl | hHint⟩ := h
  · exact hWritten hint hType
  · obtain ⟨own, hMem, hOption⟩ := hOwn type hType
    rw [hHint] at hOption
    cases hOption
    exact hMem

/-- A hint says whether there may be nothing, and what is to be read if there is something. -/
theorem IsHint.reads {kind : Kind} {hint : Text} (h : kind.IsHint hint) :
    Settings.isOptional hint = kind.isOptional ∧ baseHint hint ∈ kind.bases := by
  have hAll : ∀ hint ∈ kind.hints,
      Settings.isOptional hint = kind.isOptional ∧ baseHint hint ∈ kind.bases := by
    cases kind <;> decide +kernel
  exact hAll hint h.mem_hints

end Kind

-- ---------------------------------------------------------------------------
-- One field
-- ---------------------------------------------------------------------------

theorem isWord_text (words : List Text) (t : Text) :
    isWord words (.text t) = .ok (words.contains (lower (strip t))) := rfl

theorem strip_lower_intText (n : Int) : lower (strip (intText n)) = intText n := by
  have hBlank : ∀ c ∈ intText n, isBlankChar c = false := fun c hc => (plain_of_mem_intText hc).1
  rw [strip, trimBy_of_forall hBlank,
    lower_of_forall fun c hc => (plain_of_mem_intText hc).2]

/-- No integer is written with a word for nothing. -/
theorem isWord_nullWords_intText (n : Int) : isWord nullWords (.text (intText n)) = .ok false := by
  have hNone : intText n ≠ "none".toList := intText_ne (c := 'n') (by decide) (by decide)
  have hNull : intText n ≠ "null".toList := intText_ne (c := 'n') (by decide) (by decide)
  have hWords : intText n ∉ nullWords := by
    rw [nullWords, List.mem_cons, List.mem_cons, List.mem_singleton, not_or, not_or]
    exact ⟨intText_ne_nil n, hNone, hNull⟩
  rw [isWord_text, strip_lower_intText, List.contains_eq_mem, decide_eq_false hWords]

theorem isWord_nullWords_flag (b : Bool) :
    isWord nullWords (.text (Setting.flag b).written) = .ok false := by
  have hWords : nullWords.contains (lower (strip (Setting.flag b).written)) = false := by
    cases b <;> decide +kernel
  rw [isWord_text, hWords]

theorem isWord_nullWords_nothing :
    isWord nullWords (.text Setting.nothing.written) = .ok true := by
  have hWords : nullWords.contains (lower (strip Setting.nothing.written)) = true := by
    decide +kernel
  rw [isWord_text, hWords]

theorem decodeBase_flag (b : Bool) :
    decodeBase "bool".toList (.text (Setting.flag b).written) = .ok (.bool b) := by
  have hWords : trueWords.contains (lower (strip (Setting.flag b).written)) = b := by
    cases b <;> decide +kernel
  rw [decodeBase, if_pos rfl, isWord_text, hWords]
  rfl

theorem decodeBase_number {n : Int} (h : fitsText n = true) :
    decodeBase "int".toList (.text (intText n)) = .ok (.int n) := by
  rw [decodeBase, if_neg (by decide), if_pos rfl, Value.toInteger, integerOfText_intText h]
  rfl

theorem strip_of_isItem {item : Text} (h : IsItem item) : strip item = item :=
  trimBy_of_ends h.head_not_blank h.last_not_blank

/-- **A list is read back from its items between commas.** Without any items there is an empty
piece, which does not count. -/
theorem decodeList_join {items : List Text} (h : ∀ item ∈ items, IsItem item) :
    decodeList (join [','] items) = items := by
  by_cases hNone : items = []
  · rw [hNone]
    decide
  · have hStrip : items.map strip = items := by
      conv => rhs; rw [← List.map_id items]
      exact List.map_congr_left fun item hItem => strip_of_isItem (h item hItem)
    rw [decodeList, cut_join hNone fun item hItem => (h item hItem).no_comma, hStrip,
      List.filter_eq_self]
    intro item hItem
    exact decide_eq_true (h item hItem).ne_nil

theorem decodeBase_texts {base : Text} (hBase : base ∈ Kind.texts.bases) {items : List Text}
    (h : ∀ item ∈ items, IsItem item) :
    decodeBase base (.text (join [','] items)) = .ok (.list (items.map .text)) := by
  have hLead : base ≠ "bool".toList ∧ base ≠ "int".toList ∧ base ≠ "float".toList
      ∧ "list".toList.isPrefixOf base = true := by
    revert base
    decide
  obtain ⟨hFlag, hNumber, hReal, hList⟩ := hLead
  rw [decodeBase, if_neg hFlag, if_neg hNumber, if_neg hReal, if_pos hList]
  show Except.ok (Value.list ((decodeList (join [','] items)).map .text)) = _
  rw [decodeList_join h]

theorem decode_of_word {hint : Text} (h : isOptional hint = true) {raw : Value}
    (hWord : isWord nullWords raw = .ok true) : decode hint raw = .ok .null := by
  rw [decode, if_pos h, hWord]
  rfl

theorem decode_of_not_word {hint : Text} (h : isOptional hint = true) {raw : Value}
    (hWord : isWord nullWords raw = .ok false) :
    decode hint raw = decodeBase (baseHint hint) raw := by
  rw [decode, if_pos h, hWord]
  rfl

/-- **The text of a setting is read back as the setting**, if the hint is one of a kind that admits
it. -/
theorem decode_written {kind : Kind} {hint : Text} {setting : Setting} (hHint : kind.IsHint hint)
    (hAdmits : kind.Admits setting) : decode hint (.text setting.written) = .ok setting.value := by
  obtain ⟨hOptional, hBase⟩ := hHint.reads
  cases hAdmits with
  | flag b =>
    rw [decode_of_not_optional hOptional, List.mem_singleton.mp hBase, decodeBase_flag]
    rfl
  | number hFits =>
    rw [decode_of_not_optional hOptional, List.mem_singleton.mp hBase]
    exact decodeBase_number hFits
  | text t =>
    rw [decode_of_not_optional hOptional, List.mem_singleton.mp hBase]
    rfl
  | texts hItems =>
    rw [decode_of_not_optional hOptional]
    exact decodeBase_texts hBase hItems
  | noFlag => exact decode_of_word hOptional isWord_nullWords_nothing
  | someFlag b =>
    rw [decode_of_not_word hOptional (isWord_nullWords_flag b), List.mem_singleton.mp hBase,
      decodeBase_flag]
    rfl
  | noNumber => exact decode_of_word hOptional isWord_nullWords_nothing
  | @someNumber n hFits =>
    have hWord : isWord nullWords (.text (Setting.number n).written) = .ok false :=
      isWord_nullWords_intText n
    rw [decode_of_not_word hOptional hWord, List.mem_singleton.mp hBase]
    exact decodeBase_number hFits

-- ---------------------------------------------------------------------------
-- All fields
-- ---------------------------------------------------------------------------

/-- The field has a hint of a kind that admits the setting. -/
def Suits (field : Field) (setting : Setting) : Prop :=
  ∃ kind : Kind, kind.IsHint field.hint ∧ kind.Admits setting

/-- What a class with the given lead has in an environment for fields that hold these settings. -/
def environmentOf (lead : Text) (held : List (Field × Setting)) : Table Value :=
  held.map fun (field, setting) => (envKey lead field.name, .text setting.written)

/-- The settings by the names of their fields. -/
def valuesOf (held : List (Field × Setting)) : Table Value :=
  held.map fun (field, setting) => (field.name, setting.value)

theorem get?_of_mem {t : Table Value} {key : Text} {v : Value} (hMem : (key, v) ∈ t)
    (hOnly : ∀ entry ∈ t, entry.1 = key → entry.2 = v) : Table.get? t key = some v := by
  induction t with
  | nil => cases hMem
  | cons entry rest ih =>
    rw [Table.get?_cons]
    split
    · rename_i hKey
      rw [hOnly entry List.mem_cons_self (beq_iff_eq.mp hKey)]
    · rename_i hKey
      rcases List.mem_cons.mp hMem with rfl | hRest
      · exact absurd BEq.rfl hKey
      · exact ih hRest fun other hOther => hOnly other (List.mem_cons_of_mem _ hOther)

section Fields

variable {lead : Text} {held : List (Field × Setting)} {environment others : Table Value}

/-- An environment with further variables, in any order, holds every field's text under the field's
own key. -/
theorem get?_environmentOf (hKeys : (held.map fun entry => envKey lead entry.1.name).Nodup)
    (hEnvironment : environment.Perm (environmentOf lead held ++ others))
    (hOthers : ∀ entry ∈ others, entry.1 ∉ held.map fun entry => envKey lead entry.1.name)
    {entry : Field × Setting} (hEntry : entry ∈ held) :
    Table.get? environment (envKey lead entry.1.name) = some (.text entry.2.written) := by
  apply get?_of_mem
  · rw [hEnvironment.mem_iff]
    exact List.mem_append_left _ (List.mem_map.mpr ⟨entry, hEntry, rfl⟩)
  · intro entry' hMem hKey
    rcases List.mem_append.mp (hEnvironment.mem_iff.mp hMem) with hField | hOther
    · obtain ⟨other, hOther, rfl⟩ := List.mem_map.mp hField
      rw [List.inj_on_of_nodup_map hKeys hOther hEntry hKey]
    · exact absurd (List.mem_map.mpr ⟨entry, hEntry, hKey.symm⟩) (hOthers entry' hOther)

/-- **Every field gets its value back.** -/
theorem holdings_environmentOf (hHeld : ∀ entry ∈ held, Suits entry.1 entry.2)
    (hEnvironment : ∀ entry ∈ held,
      Table.get? environment (envKey lead entry.1.name) = some (.text entry.2.written)) :
    holdings lead environment (held.map Prod.fst) = .ok (.ofValues (valuesOf held)) := by
  induction held with
  | nil => rfl
  | cons entry rest ih =>
    obtain ⟨⟨kind, hHint, hAdmits⟩, hRest⟩ := List.forall_mem_cons.mp hHeld
    obtain ⟨hText, hTexts⟩ := List.forall_mem_cons.mp hEnvironment
    have hField : fieldValue lead environment entry.1 = .ok (some entry.2.value) := by
      simp only [fieldValue, stated?, hText, decode_written hHint hAdmits]
      rfl
    rw [List.map_cons, holdings, hField, ih hRest hTexts]
    rfl

end Fields

-- ---------------------------------------------------------------------------
-- The class
-- ---------------------------------------------------------------------------

/-- The names under which settings and their class need what they have there: the maker of keys, and
what is called or written when settings are made. -/
def hookNames : List Text :=
  keyName :: kindName :: watchersName :: readerName :: (makerNames ++ checkNames)

section Names

variable {fields : List Field} (hNames : ∀ field ∈ fields, field.name ∉ hookNames)
include hNames

theorem field?_of_hookNames {name : Text} (h : name ∈ hookNames) : field? fields name = none := by
  rw [field?, List.find?_eq_none]
  intro field hField hSame
  rw [← of_decide_eq_true hSame] at h
  exact hNames field hField h

/-- Fields with names that are needed for nothing do not get in the way. -/
theorem checkOwn_of_names (table : Table Value) : checkOwn fields table = .ok () := by
  have hMakers : ∀ names ⊆ hookNames, makerFault? fields names = none := by
    intro names hHooks
    rw [makerFault?, Option.map_eq_none_iff, List.findSome?_eq_none_iff]
    intro name hName
    rw [classValue?, field?_of_hookNames hNames (hHooks hName)]
    rfl
  have hWritten : fields.findSome? (writeFault? table) = none := by
    rw [List.findSome?_eq_none_iff]
    intro field hField
    rw [writeFault?, if_neg, if_neg]
    · intro hName
      exact hNames field hField (hName ▸ by decide)
    · intro hName
      exact hNames field hField (hName ▸ by decide)
  have hChecks : checkFault? fields table = none := by
    rw [checkFault?, Option.map_eq_none_iff, List.find?_eq_none]
    intro name hName
    rw [field?_of_hookNames hNames (by revert name; decide)]
    exact nofun
  rw [checkOwn, hMakers makerNames (by decide), hWritten, hMakers [readerName] (by decide), hChecks]
  rfl

end Names

namespace SettingsClass

/-- What a class that is made of drafts of fields is like. -/
theorem declare_eq_ok {lead : Value} {drafts : List FieldDraft}
    {check : Table Value → Except Fault Unit} {c : SettingsClass}
    (h : declare lead drafts check = .ok c) :
    c.hasKeys = (classValue? c.fields keyName).isNone
      ∧ c.takesValues = !isMade c.fields newName
      ∧ c.check = fun table => (checkOwn c.fields table >>= fun _ => check table) := by
  obtain ⟨fields, _, h⟩ := bind_eq_ok_iff.mp h
  -- the refusals do not change the fields
  iterate 5 obtain ⟨_, _, h⟩ := bind_eq_ok_iff.mp h
  cases h
  exact ⟨rfl, rfl, rfl⟩

/-- A class without fields that get in the way makes settings of any values. -/
theorem make_of_names {lead : Value} {drafts : List FieldDraft} {c : SettingsClass}
    (hDeclare : declare lead drafts (fun _ => .ok ()) = .ok c)
    (hNames : ∀ field ∈ c.fields, field.name ∉ hookNames) (table : Table Value) :
    c.hasKeys = true ∧ c.make table true = .ok () := by
  obtain ⟨hKeys, hTakes, hCheck⟩ := declare_eq_ok hDeclare
  constructor
  · rw [hKeys, classValue?, field?_of_hookNames hNames (by decide)]
    rfl
  · have hMade : isMade c.fields newName = false := by
      rw [isMade, field?_of_hookNames hNames (by decide)]
      rfl
    have hChecked : c.check table = .ok () := by
      rw [hCheck]
      exact bind_eq_ok_iff.mpr ⟨(), checkOwn_of_names hNames table, rfl⟩
    rw [make, hTakes, hMade]
    exact hChecked

/-- A class whose fields get their values and that makes settings of them is loaded with them. -/
theorem load_of_holdings {c : SettingsClass} {environment table : Table Value}
    (hKeys : c.hasKeys = true)
    (hHoldings : holdings c.lead environment c.fields = .ok (.ofValues table))
    (hMake : c.make table true = .ok ()) : c.load environment = .ok (.ofValues table) := by
  have hCheck : c.check table = .ok () := by
    rw [make] at hMake
    split at hMake
    · cases hMake
    · exact hMake
  have hEither : ∀ isStated, c.make table isStated = .ok () := by
    intro isStated
    cases isStated with
    | true => exact hMake
    | false => exact hCheck
  rw [load, hKeys]
  refine bind_eq_ok_iff.mpr ⟨_, hHoldings, ?_⟩
  simp only [Made.values_ofValues, hEither]
  rfl

/-- **Settings survive the way through an environment.** Let a class that does not check its values
have fields of these kinds, each under a key of its own, and let an environment hold the texts of
settings under these keys, and anything under others, in whatever order. If such settings can be
made at all, loading the class gives them back. They can, unless a field has the name of something
that is needed for making any. -/
theorem load_environmentOf {lead : Value} {drafts : List FieldDraft} {c : SettingsClass}
    (hDeclare : declare lead drafts (fun _ => .ok ()) = .ok c) (hKeys : c.envKeys.Nodup)
    {held : List (Field × Setting)} (hFields : held.map Prod.fst = c.fields)
    (hHeld : ∀ entry ∈ held, Suits entry.1 entry.2) {environment others : Table Value}
    (hEnvironment : environment.Perm (environmentOf c.lead held ++ others))
    (hOthers : ∀ entry ∈ others, entry.1 ∉ c.envKeys) :
    (c.hasKeys = true → c.make (valuesOf held) true = .ok () →
      c.load environment = .ok (.ofValues (valuesOf held)))
    ∧ ((∀ field ∈ c.fields, field.name ∉ hookNames) →
      c.load environment = .ok (.ofValues (valuesOf held))) := by
  have hOwn : c.envKeys = held.map fun entry => envKey c.lead entry.1.name := by
    rw [envKeys, ← hFields, List.map_map]
    rfl
  rw [hOwn] at hKeys hOthers
  have hHoldings : holdings c.lead environment c.fields = .ok (.ofValues (valuesOf held)) := by
    rw [← hFields]
    exact holdings_environmentOf hHeld fun _ => get?_environmentOf hKeys hEnvironment hOthers
  have hLoad : c.hasKeys = true → c.make (valuesOf held) true = .ok () →
      c.load environment = .ok (.ofValues (valuesOf held)) :=
    fun hHas hMake => load_of_holdings hHas hHoldings hMake
  refine ⟨hLoad, ?_⟩
  intro hNames
  obtain ⟨hHas, hMake⟩ := make_of_names hDeclare hNames (valuesOf held)
  exact hLoad hHas hMake

/-- A limit that need not be stated. -/
def limitField : Field := ⟨"limit".toList, "None | int".toList, none⟩

/-- Tags, by the hint of the type itself. -/
def tagsField : Field := ⟨"tags".toList, "list".toList, none⟩

/-- Drafts of both. -/
def taggedDrafts : List FieldDraft :=
  [⟨.text "limit".toList, "None | int".toList, none, true⟩,
    ⟨.text "tags".toList, "list".toList, none, false⟩]

/-- The class of these drafts, if it does not check its values. -/
def taggedClass : SettingsClass where
  lead := "app".toList
  fields := [limitField, tagsField]
  check := checkOwn [limitField, tagsField]

theorem declare_tagged :
    declare (.text "app".toList) taggedDrafts (fun _ => .ok ()) = .ok taggedClass := by
  have hNames : ∀ name ∈ ["limit".toList, "tags".toList], isFieldName name = true := by
    decide +kernel
  have hFields : fieldsOf (.text "app".toList) [] taggedDrafts
      = .ok [limitField, tagsField] := by
    simp only [taggedDrafts, fieldsOf, hNames _ List.mem_cons_self,
      hNames _ (List.mem_cons_of_mem _ List.mem_cons_self)]
    rfl
  have hSpelling : ∀ field ∈ [limitField, tagsField], checkSpelling field = .ok () := by
    have hNormal : ∀ field ∈ [limitField, tagsField], isNormal field.name = true := by
      decide +kernel
    intro field hField
    rw [checkSpelling, hNormal field hField]
    rfl
  have hLimit := hSpelling limitField List.mem_cons_self
  have hTags := hSpelling tagsField (List.mem_cons_of_mem _ List.mem_cons_self)
  refine bind_eq_ok_iff.mpr ⟨_, hFields, bind_eq_ok_iff.mpr ⟨(), rfl, ?_⟩⟩
  refine bind_eq_ok_iff.mpr ⟨(), rfl, bind_eq_ok_iff.mpr ⟨(), rfl, ?_⟩⟩
  refine bind_eq_ok_iff.mpr ⟨(), rfl, bind_eq_ok_iff.mpr ⟨(), ?_, rfl⟩⟩
  exact bind_eq_ok_iff.mpr ⟨(), hLimit, bind_eq_ok_iff.mpr ⟨(), hTags, rfl⟩⟩

theorem hintOfType_list : hintOfType "list[str]".toList = .ok "list".toList := by
  have hOption : (hintOfType "list[str]".toList).toOption = some "list".toList := by decide +kernel
  cases hHint : hintOfType "list[str]".toList with
  | ok hint =>
    rw [hHint] at hOption
    exact congrArg _ (Option.some.inj hOption)
  | error fault =>
    rw [hHint] at hOption
    cases hOption

theorem load_environmentOf_tagged :
    declare (.text "app".toList) taggedDrafts (fun _ => .ok ()) = .ok taggedClass
    ∧ taggedClass.load
        [("HOME".toList, .text "/".toList), ("APP_LIMIT".toList, .text "-5".toList),
          ("APP_TAGS".toList, .text "a b,none".toList)]
      = .ok [("limit".toList, some (.int (-5))),
          ("tags".toList, some (.list [.text "a b".toList, .text "none".toList]))] := by
  have hLimitKey : envKey "app".toList "limit".toList = "APP_LIMIT".toList := by decide +kernel
  have hTagsKey : envKey "app".toList "tags".toList = "APP_TAGS".toList := by decide +kernel
  have hOwn : taggedClass.envKeys = ["APP_LIMIT".toList, "APP_TAGS".toList] := by
    rw [← hLimitKey, ← hTagsKey]
    rfl
  have hItems : ∀ item ∈ ["a b".toList, "none".toList], IsItem item := by
    intro item hItem
    have hAll : ∀ item ∈ ["a b".toList, "none".toList], item ≠ [] ∧ ',' ∉ item
        ∧ item.head?.any isBlankChar = false ∧ item.getLast?.any isBlankChar = false := by
      decide
    obtain ⟨hSome, hComma, hHead, hLast⟩ := hAll item hItem
    exact ⟨hSome, hComma, (Option.any_eq_false _ _).mp hHead, (Option.any_eq_false _ _).mp hLast⟩
  have hLimit : Suits limitField (.number (-5)) :=
    ⟨.numberOrNothing, ⟨"None | int".toList, by decide, .inl rfl⟩, .someNumber (by decide +kernel)⟩
  have hTags : Suits tagsField (.texts ["a b".toList, "none".toList]) :=
    ⟨.texts, ⟨"list[str]".toList, List.mem_singleton_self _, .inr hintOfType_list⟩, .texts hItems⟩
  have hHeld : ∀ entry ∈ [(limitField, Setting.number (-5)),
      (tagsField, .texts ["a b".toList, "none".toList])], Suits entry.1 entry.2 :=
    List.forall_mem_cons.mpr ⟨hLimit, List.forall_mem_singleton.mpr hTags⟩
  have hOthers : ∀ entry ∈ [("HOME".toList, Value.text "/".toList)],
      entry.1 ∉ taggedClass.envKeys := by
    rw [hOwn]
    decide
  have hEnvironment : environmentOf "app".toList [(limitField, Setting.number (-5)),
      (tagsField, .texts ["a b".toList, "none".toList])]
        = [("APP_LIMIT".toList, .text "-5".toList),
          ("APP_TAGS".toList, .text "a b,none".toList)] := by
    rw [← hLimitKey, ← hTagsKey]
    rfl
  obtain ⟨-, hLoad⟩ := load_environmentOf declare_tagged (by rw [hOwn]; decide) rfl hHeld
    List.perm_append_comm hOthers
  rw [show taggedClass.lead = "app".toList from rfl, hEnvironment] at hLoad
  exact ⟨declare_tagged, hLoad (by decide)⟩

end SettingsClass

end Settings

end EventLoom
