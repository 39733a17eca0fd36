import EventLoom.Proofs.Acceptance
import EventLoom.Settings.Publisher

/-!
# What comes of loading settings

An environment holds texts. Loading goes through the fields of a class in order and ends with the
first one that has neither a text nor a default, or a text that cannot be read (`Fails`); only when
every field has given something (`GiveAll`) are settings made of it. What then comes of it is for
the class to say, and loading passes it on (`Loads`). A fault that turns values down, for what they
say or for what they are, becomes a problem of configuration that has this fault for its cause, if
what is said of it can be written; whatever else the class reports stays as it is.

Only a class with a value in the place of the maker of its keys does not come so far; it cannot be
loaded at all.

For the settings of a publisher this leaves nothing but settings and problems of configuration: what
its fields read are numbers and texts (`IsRead`), these can always be looked at, and an integer that
is read is never too long to be written.

## Results

* `gives_or_fails`, `fieldValue_eq_ok_iff`, `fieldValue_eq_error_iff` — what comes of one field.
* `fitsText_of_integerOfText` — integers that are read can be written.
* `holdings_eq_ok_iff`, `holdings_eq_error_iff` — the first field that fails decides.
* `load_congr` — nothing in the environment matters but the keys of the fields.
* `ofEnvironment_of_texts` — the settings of a publisher, or a problem of configuration.
* `load_eq_iff_loads` — what comes of a class.
-/

namespace EventLoom

open Text Number

-- ---------------------------------------------------------------------------
-- Integers that are read
-- ---------------------------------------------------------------------------

namespace Number

theorem lt_ten_of_digitValue? {c : Char} {d : Nat} (h : digitValue? c = some d) : d < 10 := by
  rw [digitValue?] at h
  obtain ⟨first, hFirst, rfl⟩ := Option.map_eq_some_iff.mp h
  have hRange := List.find?_some hFirst
  simp only [Bool.and_eq_true, decide_eq_true_eq] at hRange
  omega

theorem lt_ten_of_takeMoreDigits (t : Text) : ∀ d ∈ (takeMoreDigits t).1, d < 10 := by
  fun_induction takeMoreDigits t with
  | case1 => exact List.forall_mem_nil _
  | case2 c rest d hDigit more behind hMore ih =>
    rw [hMore] at ih
    exact List.forall_mem_cons.mpr ⟨lt_ten_of_digitValue? hDigit, ih⟩
  | case3 => exact List.forall_mem_nil _
  | case4 c rest _ d hDigit more behind hMore ih =>
    rw [hMore] at ih
    exact List.forall_mem_cons.mpr ⟨lt_ten_of_digitValue? hDigit, ih⟩
  | case5 => exact List.forall_mem_nil _

theorem lt_ten_of_takeDigits? {t behind : Text} {digits : List Nat}
    (h : takeDigits? t = some (digits, behind)) : ∀ d ∈ digits, d < 10 := by
  cases t with
  | nil => cases h
  | cons c rest =>
    obtain ⟨first, hFirst, h⟩ := Option.bind_eq_some_iff.mp h
    have hMore := lt_ten_of_takeMoreDigits rest
    dsimp only at h
    split at h
    · cases h
    · cases h
      exact List.forall_mem_cons.mpr ⟨lt_ten_of_digitValue? hFirst, hMore⟩

/-- Each digit makes the number less than ten times as large. -/
theorem foldl_digits_lt {digits : List Nat} (h : ∀ d ∈ digits, d < 10) (n : Nat) :
    digits.foldl (fun n d => n * 10 + d) n < (n + 1) * tenTo digits.length := by
  induction digits generalizing n with
  | nil =>
    show n < (n + 1) * 1
    omega
  | cons d rest ih =>
    obtain ⟨hDigit, hRest⟩ := List.forall_mem_cons.mp h
    calc (d :: rest).foldl (fun n d => n * 10 + d) n
      _ < (n * 10 + d + 1) * tenTo rest.length := ih hRest _
      _ ≤ ((n + 1) * 10) * tenTo rest.length := Nat.mul_le_mul_right _ (by omega)
      _ = (n + 1) * tenTo (rest.length + 1) := by rw [tenTo_succ, Nat.mul_assoc, Nat.mul_comm 10]

theorem lt_ten_of_readNumeral? {t : Text} {numeral : Numeral}
    (h : readNumeral? t = some numeral) : ∀ d ∈ numeral.digits, d < 10 := by
  obtain ⟨⟨digits, behind⟩, hTaken, rfl⟩ := Option.map_eq_some_iff.mp h
  exact lt_ten_of_takeDigits? hTaken

/-- An integer that is read can be written. -/
theorem fitsText_of_integerOfText {t : Text} {n : Int} (h : integerOfText t = .ok n) :
    fitsText n = true := by
  rw [integerOfText] at h
  split at h
  · cases h
  · rename_i numeral hNumeral
    split at h
    · cases h
    · rename_i hLength
      split at h
      · cases h
        have hBelow : ofDigits numeral.digits < (0 + 1) * tenTo numeral.digits.length :=
          foldl_digits_lt (lt_ten_of_readNumeral? hNumeral) 0
        have hPower : tenTo numeral.digits.length ≤ tenTo digitLimit :=
          tenTo_le_tenTo (Nat.le_of_not_lt hLength)
        have hSize : numeral.value.natAbs = ofDigits numeral.digits := by
          rw [Numeral.value, ofSignedDigits]
          split
          · rw [Int.natAbs_neg, Int.natAbs_natCast]
          · rw [Int.natAbs_natCast]
        rw [Nat.zero_add, Nat.one_mul] at hBelow
        rw [fitsText_iff, hSize]
        exact Nat.lt_of_lt_of_le hBelow hPower
      · cases h

end Number

namespace Settings

-- ---------------------------------------------------------------------------
-- Environments of texts
-- ---------------------------------------------------------------------------

/-- The environment that holds these texts. -/
def asEnvironment (texts : Table Text) : Table Value := texts.map fun (name, t) => (name, .text t)

theorem get?_asEnvironment (texts : Table Text) (key : Text) :
    Table.get? (asEnvironment texts) key = (Table.get? texts key).map .text := by
  induction texts with
  | nil => rfl
  | cons entry rest ih =>
    rw [asEnvironment, List.map_cons, ← asEnvironment, Table.get?_cons, Table.get?_cons, ih,
      apply_ite (Option.map Value.text)]
    rfl

/-- A text is never nothing. -/
theorem stated?_asEnvironment (texts : Table Text) (key : Text) :
    stated? (asEnvironment texts) key = (Table.get? texts key).map .text := by
  rw [stated?, get?_asEnvironment]
  cases Table.get? texts key <;> rfl

-- ---------------------------------------------------------------------------
-- One field
-- ---------------------------------------------------------------------------

theorem message_of_integerOfText {t : Text} {fault : Fault} (h : integerOfText t = .error fault) :
    fault.refusal? = some .ofValue ∧ ∃ reason, fault.message? = some reason := by
  rw [integerOfText] at h
  repeat' split at h
  all_goals cases h
  all_goals exact ⟨rfl, _, rfl⟩

theorem message_of_realOfText {t : Text} {fault : Fault} (h : realOfText t = .error fault) :
    fault.refusal? = some .ofValue ∧ ∃ reason, fault.message? = some reason := by
  rw [realOfText] at h
  split at h
  all_goals cases h
  exact ⟨rfl, _, rfl⟩

/-- Only numbers cannot be read from a text, and then it is said why. -/
theorem message_of_decode {hint t : Text} {fault : Fault}
    (h : decode hint (.text t) = .error fault) :
    fault.refusal? = some .ofValue ∧ ∃ reason, fault.message? = some reason := by
  have hBase : ∀ base, decodeBase base (.text t) = .error fault →
      fault.refusal? = some .ofValue ∧ ∃ reason, fault.message? = some reason := by
    intro base hDecode
    rw [decodeBase] at hDecode
    split at hDecode
    · cases hDecode
    · split at hDecode
      · obtain hNumber | ⟨n, -, hDone⟩ := bind_eq_error_iff.mp hDecode
        · exact message_of_integerOfText hNumber
        · cases hDone
      · split at hDecode
        · obtain hNumber | ⟨x, -, hDone⟩ := bind_eq_error_iff.mp hDecode
          · exact message_of_realOfText hNumber
          · cases hDone
        · split at hDecode <;> cases hDecode
  rw [decode] at h
  split at h
  · obtain hWord | ⟨isNull, -, hDecode⟩ := bind_eq_error_iff.mp h
    · cases hWord
    · cases isNull with
      | true => cases hDecode
      | false => exact hBase _ hDecode
  · exact hBase _ h

section Fields

variable (lead : Text) (texts : Table Text)

/-- What a field gives: a value, or nothing if it keeps what is no value. -/
inductive Gives (field : Field) : Option Value → Prop where
  | decoded {t : Text} {v : Value} (hText : Table.get? texts (envKey lead field.name) = some t)
    (hDecode : decode field.hint (.text t) = .ok v) : Gives field (some v)
  | default {d : Default} (hAbsent : Table.get? texts (envKey lead field.name) = none)
    (hDefault : field.default? = some d) : Gives field d.value?

/-- How a field fails. -/
inductive Fails (field : Field) : Fault → Prop where
  | missing (hAbsent : Table.get? texts (envKey lead field.name) = none)
    (hDefault : field.default? = none) : Fails field (.missingSetting (envKey lead field.name))
  | unreadable {t reason : Text} {fault : Fault}
    (hText : Table.get? texts (envKey lead field.name) = some t)
    (hDecode : decode field.hint (.text t) = .error fault)
    (hReason : fault.message? = some reason) :
    Fails field (.invalidSetting (envKey lead field.name) (.text t) reason)

/-- What the fields give, by name. -/
inductive GiveAll : List Field → Made → Prop where
  | nil : GiveAll [] []
  | cons {field : Field} {v? : Option Value} {rest : List Field} {made : Made}
    (hField : Gives lead texts field v?) (hRest : GiveAll rest made) :
    GiveAll (field :: rest) ((field.name, v?) :: made)

variable {lead texts}

theorem fieldValue_of_gives {field : Field} {v? : Option Value} (h : Gives lead texts field v?) :
    fieldValue lead (asEnvironment texts) field = .ok v? := by
  cases h with
  | decoded hText hDecode =>
    simp only [fieldValue, stated?_asEnvironment, hText, Option.map_some, hDecode]
    rfl
  | default hAbsent hDefault =>
    simp only [fieldValue, stated?_asEnvironment, hAbsent, Option.map_none, hDefault]

theorem fieldValue_of_fails {field : Field} {fault : Fault} (h : Fails lead texts field fault) :
    fieldValue lead (asEnvironment texts) field = .error fault := by
  cases h with
  | missing hAbsent hDefault =>
    simp only [fieldValue, stated?_asEnvironment, hAbsent, Option.map_none, hDefault]
  | @unreadable t reason cause hText hDecode hReason =>
    have hReport : reportReading (envKey lead field.name) (.text t) cause
        = .invalidSetting (envKey lead field.name) (.text t) reason := by
      rw [reportReading, (message_of_decode hDecode).1, hReason]
    simp only [fieldValue, stated?_asEnvironment, hText, Option.map_some, hDecode]
    exact congrArg Except.error hReport

theorem gives_or_fails (lead : Text) (texts : Table Text) (field : Field) :
    (∃ v?, Gives lead texts field v?) ∨ ∃ fault, Fails lead texts field fault := by
  rcases hText : Table.get? texts (envKey lead field.name) with _ | t
  · rcases hDefault : field.default? with _ | d
    · exact .inr ⟨_, .missing hText hDefault⟩
    · exact .inl ⟨_, .default hText hDefault⟩
  · rcases hDecode : decode field.hint (.text t) with fault | v
    · obtain ⟨-, reason, hReason⟩ := message_of_decode hDecode
      exact .inr ⟨_, .unreadable hText hDecode hReason⟩
    · exact .inl ⟨_, .decoded hText hDecode⟩

theorem fieldValue_eq_ok_iff {field : Field} {v? : Option Value} :
    fieldValue lead (asEnvironment texts) field = .ok v? ↔ Gives lead texts field v? := by
  refine ⟨fun h => ?_, fieldValue_of_gives⟩
  obtain ⟨w?, hGives⟩ | ⟨fault, hFails⟩ := gives_or_fails lead texts field
  · rw [fieldValue_of_gives hGives] at h
    cases h
    exact hGives
  · rw [fieldValue_of_fails hFails] at h
    cases h

theorem fieldValue_eq_error_iff {field : Field} {fault : Fault} :
    fieldValue lead (asEnvironment texts) field = .error fault ↔ Fails lead texts field fault := by
  refine ⟨fun h => ?_, fieldValue_of_fails⟩
  obtain ⟨w?, hGives⟩ | ⟨fault, hFails⟩ := gives_or_fails lead texts field
  · rw [fieldValue_of_gives hGives] at h
    cases h
  · rw [fieldValue_of_fails hFails] at h
    cases h
    exact hFails

-- ---------------------------------------------------------------------------
-- All fields
-- ---------------------------------------------------------------------------

theorem holdings_eq_ok_iff {fields : List Field} {made : Made} :
    holdings lead (asEnvironment texts) fields = .ok made ↔ GiveAll lead texts fields made := by
  induction fields generalizing made with
  | nil =>
    constructor
    · rintro ⟨⟩
      exact .nil
    · rintro ⟨⟩
      rfl
  | cons field rest ih =>
    rw [holdings]
    constructor
    · intro h
      obtain ⟨v?, hField, h⟩ := bind_eq_ok_iff.mp h
      obtain ⟨more, hRest, h⟩ := bind_eq_ok_iff.mp h
      cases h
      exact .cons (fieldValue_eq_ok_iff.mp hField) (ih.mp hRest)
    · rintro ⟨⟩
      rename_i v? made hField hRest
      refine bind_eq_ok_iff.mpr ⟨v?, fieldValue_eq_ok_iff.mpr hField, ?_⟩
      exact bind_eq_ok_iff.mpr ⟨made, ih.mpr hRest, rfl⟩

/-- **The first field that fails decides**, whatever is wrong with those behind it. -/
theorem holdings_eq_error_iff {fields : List Field} {fault : Fault} :
    holdings lead (asEnvironment texts) fields = .error fault ↔
      ∃ front field back made, fields = front ++ field :: back
        ∧ GiveAll lead texts front made ∧ Fails lead texts field fault := by
  induction fields with
  | nil =>
    refine iff_of_false nofun ?_
    rintro ⟨front, field, back, made, hFields, -⟩
    cases front <;> cases hFields
  | cons first rest ih =>
    rw [holdings]
    constructor
    · intro h
      obtain hFirst | ⟨v?, hFirst, h⟩ := bind_eq_error_iff.mp h
      · exact ⟨[], first, rest, [], rfl, .nil, fieldValue_eq_error_iff.mp hFirst⟩
      · obtain hRest | ⟨more, -, hDone⟩ := bind_eq_error_iff.mp h
        · obtain ⟨front, field, back, made, rfl, hFront, hField⟩ := ih.mp hRest
          have hFirst := fieldValue_eq_ok_iff.mp hFirst
          exact ⟨first :: front, field, back, _, rfl, .cons hFirst hFront, hField⟩
        · cases hDone
    · rintro ⟨front, field, back, made, hFields, hFront, hField⟩
      cases hFront with
      | nil =>
        obtain ⟨rfl, rfl⟩ := List.cons.inj hFields
        exact bind_eq_error_iff.mpr (.inl (fieldValue_eq_error_iff.mpr hField))
      | cons hFirst hFront =>
        obtain ⟨rfl, rfl⟩ := List.cons.inj hFields
        have hRest := ih.mpr ⟨_, field, back, _, rfl, hFront, hField⟩
        refine bind_eq_error_iff.mpr (.inr ⟨_, fieldValue_eq_ok_iff.mpr hFirst, ?_⟩)
        exact bind_eq_error_iff.mpr (.inl hRest)

theorem Gives.of_value {field : Field} {v : Value}
    (hAbsent : Table.get? texts (envKey lead field.name) = none)
    (hDefault : field.default? = some (.value v)) : Gives lead texts field (some v) := by
  have hGives := Gives.default hAbsent hDefault
  exact hGives

/-- A field gives what its default is like and what everything is like that is read by its hint. -/
theorem Gives.some_of {field : Field} {v? : Option Value} (h : Gives lead texts field v?)
    {P : Value → Prop} (hDefault : ∃ v, field.default? = some (.value v) ∧ P v)
    (hDecoded : ∀ t v, decode field.hint (.text t) = .ok v → P v) : ∃ v, v? = some v ∧ P v := by
  cases h with
  | decoded hText hDecode => exact ⟨_, rfl, hDecoded _ _ hDecode⟩
  | default hAbsent hOther =>
    obtain ⟨v, hValue, hP⟩ := hDefault
    rw [hValue] at hOther
    cases hOther
    exact ⟨v, rfl, hP⟩

/-- All fields give something, in order. -/
theorem GiveAll.keys_eq {fields : List Field} {made : Made} (h : GiveAll lead texts fields made) :
    Table.keys made = fields.map Field.name := by
  induction h with
  | nil => rfl
  | cons _ _ ih => exact congrArg (_ :: ·) ih

/-- Fields that have values for their defaults all give values. -/
theorem GiveAll.keys_values_eq {fields : List Field} {made : Made}
    (h : GiveAll lead texts fields made)
    (hDefaults : ∀ field ∈ fields, ∀ d, field.default? = some d → ∃ v, d.value? = some v) :
    Table.keys made.values = fields.map Field.name := by
  induction h with
  | nil => rfl
  | @cons field v? rest made hField hRest ih =>
    obtain ⟨hFirst, hMore⟩ := List.forall_mem_cons.mp hDefaults
    have hGiven : ∃ v, v? = some v := by
      cases hField with
      | decoded => exact ⟨_, rfl⟩
      | default hAbsent hDefault => exact hFirst _ hDefault
    obtain ⟨v, rfl⟩ := hGiven
    exact congrArg (field.name :: ·) (ih hMore)

end Fields

-- ---------------------------------------------------------------------------
-- The class
-- ---------------------------------------------------------------------------

namespace SettingsClass

variable {c : SettingsClass} {texts : Table Text}

/-- Whether there is a text for some field. -/
def isStated (c : SettingsClass) (texts : Table Text) : Bool :=
  c.envKeys.any fun key => (Table.get? texts key).isSome

/-- What comes of loading a class from texts. Settings are made only in the last four cases, where
all fields have given what they give. -/
inductive Loads (c : SettingsClass) (texts : Table Text) : Except Fault Made → Prop where
  /-- There is a value in the place of the maker of keys. -/
  | keyless (hKeys : c.hasKeys = false) : Loads c texts (.error .wrongType)
  | failed {front back : List Field} {field : Field} {made : Made} {fault : Fault}
    (hKeys : c.hasKeys = true) (hFields : c.fields = front ++ field :: back)
    (hFront : GiveAll c.lead texts front made) (hField : Fails c.lead texts field fault) :
    Loads c texts (.error fault)
  | loaded {made : Made} (hKeys : c.hasKeys = true) (hAll : GiveAll c.lead texts c.fields made)
    (hMake : c.make made.values (c.isStated texts) = .ok ()) : Loads c texts (.ok made)
  /-- The values are turned down, for what they say or for what they are. -/
  | refused {made : Made} {fault : Fault} {refusal : Refusal} (hKeys : c.hasKeys = true)
    (hAll : GiveAll c.lead texts c.fields made)
    (hMake : c.make made.values (c.isStated texts) = .error fault)
    (hRefusal : fault.refusal? = some refusal) (hText : fault.reason.hasText = true) :
    Loads c texts (.error (.settingsFailed fault))
  /-- The values are turned down in words that cannot be written. -/
  | untold {made : Made} {fault : Fault} {refusal : Refusal} (hKeys : c.hasKeys = true)
    (hAll : GiveAll c.lead texts c.fields made)
    (hMake : c.make made.values (c.isStated texts) = .error fault)
    (hRefusal : fault.refusal? = some refusal) (hText : fault.reason.hasText = false) :
    Loads c texts (.error .unwritableInteger)
  /-- The class reports a problem of configuration, or fails in another way. -/
  | passed {made : Made} {fault : Fault} (hKeys : c.hasKeys = true)
    (hAll : GiveAll c.lead texts c.fields made)
    (hMake : c.make made.values (c.isStated texts) = .error fault)
    (hOther : fault.refusal? = none) : Loads c texts (.error fault)

/-- The class decides about the values that its fields have given. -/
theorem load_of_giveAll {made : Made} (hKeys : c.hasKeys = true)
    (hAll : GiveAll c.lead texts c.fields made) :
    c.load (asEnvironment texts) =
      match c.make made.values (c.isStated texts) with
      | .ok () => .ok made
      | .error fault => .error (reportRefusal fault) := by
  have hStated : (c.envKeys.any fun key => (stated? (asEnvironment texts) key).isSome)
      = c.isStated texts := by
    simp only [isStated, stated?_asEnvironment, Option.isSome_map]
  simp only [load, hKeys, holdings_eq_ok_iff.mpr hAll, hStated]
  rfl

theorem reportRefusal_of_hasText {fault : Fault} {refusal : Refusal}
    (hRefusal : fault.refusal? = some refusal) (hText : fault.reason.hasText = true) :
    reportRefusal fault = .settingsFailed fault := by
  rw [reportRefusal, hRefusal]
  exact Value.telling_of_hasText hText _

theorem reportRefusal_of_not_hasText {fault : Fault} {refusal : Refusal}
    (hRefusal : fault.refusal? = some refusal) (hText : fault.reason.hasText = false) :
    reportRefusal fault = .unwritableInteger := by
  rw [reportRefusal, hRefusal]
  exact Value.telling_of_not_hasText hText _

theorem reportRefusal_of_none {fault : Fault} (h : fault.refusal? = none) :
    reportRefusal fault = fault := by
  rw [reportRefusal, h]

/-- What the class reports is told as one of the last three rules says. -/
theorem loads_of_error {made : Made} {fault : Fault} (hKeys : c.hasKeys = true)
    (hAll : GiveAll c.lead texts c.fields made)
    (hMake : c.make made.values (c.isStated texts) = .error fault) :
    Loads c texts (.error (reportRefusal fault)) := by
  cases hRefusal : fault.refusal? with
  | none =>
    rw [reportRefusal_of_none hRefusal]
    exact .passed hKeys hAll hMake hRefusal
  | some refusal =>
    cases hText : fault.reason.hasText with
    | true =>
      rw [reportRefusal_of_hasText hRefusal hText]
      exact .refused hKeys hAll hMake hRefusal hText
    | false =>
      rw [reportRefusal_of_not_hasText hRefusal hText]
      exact .untold hKeys hAll hMake hRefusal hText

theorem loads_load (c : SettingsClass) (texts : Table Text) :
    Loads c texts (c.load (asEnvironment texts)) := by
  rcases hKeys : c.hasKeys with _ | _
  · rw [load, hKeys]
    exact .keyless hKeys
  · rcases hHoldings : holdings c.lead (asEnvironment texts) c.fields with fault | made
    · obtain ⟨front, field, back, made, hFields, hFront, hField⟩ :=
        holdings_eq_error_iff.mp hHoldings
      rw [load, hKeys, hHoldings]
      exact .failed hKeys hFields hFront hField
    · have hAll := holdings_eq_ok_iff.mp hHoldings
      rw [load_of_giveAll hKeys hAll]
      rcases hMake : c.make made.values (c.isStated texts) with fault | _
      · exact loads_of_error hKeys hAll hMake
      · exact .loaded hKeys hAll hMake

theorem load_of_loads {outcome : Except Fault Made} (h : Loads c texts outcome) :
    c.load (asEnvironment texts) = outcome := by
  cases h with
  | keyless hKeys =>
    rw [load, hKeys]
    rfl
  | failed hKeys hFields hFront hField =>
    rw [load, hKeys, holdings_eq_error_iff.mpr ⟨_, _, _, _, hFields, hFront, hField⟩]
    rfl
  | loaded hKeys hAll hMake => rw [load_of_giveAll hKeys hAll, hMake]
  | refused hKeys hAll hMake hRefusal hText =>
    rw [load_of_giveAll hKeys hAll, hMake]
    exact congrArg Except.error (reportRefusal_of_hasText hRefusal hText)
  | untold hKeys hAll hMake hRefusal hText =>
    rw [load_of_giveAll hKeys hAll, hMake]
    exact congrArg Except.error (reportRefusal_of_not_hasText hRefusal hText)
  | passed hKeys hAll hMake hOther =>
    rw [load_of_giveAll hKeys hAll, hMake]
    exact congrArg Except.error (reportRefusal_of_none hOther)

/-- **Nothing matters but what the environment holds under the keys of the fields.** -/
theorem load_congr {texts' : Table Text}
    (h : ∀ key ∈ c.envKeys, Table.get? texts key = Table.get? texts' key) :
    c.load (asEnvironment texts) = c.load (asEnvironment texts') := by
  have hGet : ∀ key ∈ c.envKeys,
      Table.get? (asEnvironment texts) key = Table.get? (asEnvironment texts') key := by
    intro key hKey
    rw [get?_asEnvironment, get?_asEnvironment, h key hKey]
  have hHoldings : holdings c.lead (asEnvironment texts) c.fields
      = holdings c.lead (asEnvironment texts') c.fields :=
    holdings_congr fun field hField => hGet _ (List.mem_map_of_mem hField)
  have hStated : (c.envKeys.any fun key => (stated? (asEnvironment texts) key).isSome)
      = c.envKeys.any fun key => (stated? (asEnvironment texts') key).isSome := by
    rw [Bool.eq_iff_iff, List.any_eq_true, List.any_eq_true]
    refine exists_congr fun key => and_congr_right fun hKey => ?_
    rw [stated?, stated?, hGet key hKey]
  rw [load, load, hHoldings, hStated]

end SettingsClass

end Settings

-- ---------------------------------------------------------------------------
-- The settings of a publisher
-- ---------------------------------------------------------------------------

namespace PublisherSettings

open Settings

variable {texts : Table Text} {s : PublisherSettings} {fault : Fault}

/-- The settings are of the kinds that their fields read. -/
structure IsRead (s : PublisherSettings) : Prop where
  workers : ∃ n, s.workers = .int n ∧ fitsText n = true
  timeout : s.timeout = .null ∨ ∃ x, s.timeout = .float x
  emptyPolicy : ∃ t, s.emptyPolicy = .text t
  logLevel : ∃ t, s.logLevel = .text t
  jsonLogs : ∃ b, s.jsonLogs = .bool b

theorem decode_int (t : Text) :
    decode "int".toList (.text t) = do return .int (← integerOfText t) := by
  have hHint : isOptional "int".toList = false ∧ baseHint "int".toList = "int".toList := by
    decide +kernel
  rw [decode_of_not_optional hHint.1, hHint.2]
  rfl

theorem decode_float (t : Text) :
    decode "float | None".toList (.text t)
      = if nullWords.contains (lower (strip t)) then .ok .null
        else do return .float (← realOfText t) := by
  have hHint : isOptional "float | None".toList = true
      ∧ baseHint "float | None".toList = "float".toList := by
    decide +kernel
  rw [decode, if_pos hHint.1, hHint.2]
  rfl

theorem decode_str (t : Text) : decode "str".toList (.text t) = .ok (.text t) := by
  have hHint : isOptional "str".toList = false ∧ baseHint "str".toList = "str".toList := by
    decide +kernel
  rw [decode_of_not_optional hHint.1, hHint.2]
  rfl

theorem decode_bool (t : Text) :
    decode "bool".toList (.text t) = .ok (.bool (trueWords.contains (lower (strip t)))) := by
  have hHint : isOptional "bool".toList = false ∧ baseHint "bool".toList = "bool".toList := by
    decide +kernel
  rw [decode_of_not_optional hHint.1, hHint.2]
  rfl

theorem isRead_of_giveAll {made : Made} (h : GiveAll lead texts fields made) :
    ∃ s : PublisherSettings, made.values = s.toTable ∧ s.IsRead := by
  unfold fields at h
  obtain _ | ⟨hWorkers, _ | ⟨hTimeout, _ | ⟨hPolicy, _ | ⟨hLevel, _ | ⟨hJson, ⟨⟩⟩⟩⟩⟩⟩ := h
  have hReadInt : ∀ t v, decode "int".toList (.text t) = .ok v →
      ∃ n, v = .int n ∧ fitsText n = true := by
    intro t v hDecode
    rw [decode_int] at hDecode
    obtain ⟨n, hNumber, ⟨⟩⟩ := bind_eq_ok_iff.mp hDecode
    exact ⟨n, rfl, fitsText_of_integerOfText hNumber⟩
  have hReadFloat : ∀ t v, decode "float | None".toList (.text t) = .ok v →
      v = .null ∨ ∃ x, v = .float x := by
    intro t v hDecode
    rw [decode_float] at hDecode
    split at hDecode
    · cases hDecode
      exact .inl rfl
    · obtain ⟨x, -, ⟨⟩⟩ := bind_eq_ok_iff.mp hDecode
      exact .inr ⟨x, rfl⟩
  have hReadText : ∀ t v, decode "str".toList (.text t) = .ok v → ∃ u, v = .text u := by
    intro t v hDecode
    rw [decode_str] at hDecode
    cases hDecode
    exact ⟨t, rfl⟩
  have hReadBool : ∀ t v, decode "bool".toList (.text t) = .ok v → ∃ b, v = .bool b := by
    intro t v hDecode
    rw [decode_bool] at hDecode
    cases hDecode
    exact ⟨_, rfl⟩
  have hFour : fitsText 4 = true := by decide +kernel
  obtain ⟨workers, rfl, hInt⟩ := hWorkers.some_of ⟨_, rfl, 4, rfl, hFour⟩ hReadInt
  obtain ⟨timeout, rfl, hFloat⟩ := hTimeout.some_of ⟨_, rfl, .inl rfl⟩ hReadFloat
  obtain ⟨policy, rfl, hText⟩ := hPolicy.some_of ⟨_, rfl, _, rfl⟩ hReadText
  obtain ⟨level, rfl, hText'⟩ := hLevel.some_of ⟨_, rfl, _, rfl⟩ hReadText
  obtain ⟨json, rfl, hBool⟩ := hJson.some_of ⟨_, rfl, _, rfl⟩ hReadBool
  exact ⟨⟨workers, timeout, policy, level, json⟩, rfl, hInt, hFloat, hText, hText', hBool⟩

theorem ofTable_toTable (s : PublisherSettings) :
    ofTable s.toTable = s.check.map fun _ => s := by
  have hKnown : ((Table.keys s.toTable).all fun name =>
      (Table.keys ({} : PublisherSettings).toTable).contains name) = true := by
    show ((Table.keys ({} : PublisherSettings).toTable).all fun name => _) = true
    decide
  rw [ofTable, if_pos hKnown]
  rfl

/-- What is turned down is told as a problem of configuration, if it can be told at all. -/
theorem isConfiguration_of_turnDown {v : Value} (hText : v.hasText = true) {name reason : Text}
    (h : turnDown name v reason = .error fault) : fault.isConfiguration = true := by
  rw [turnDown_of_hasText hText] at h
  cases h
  rfl

/-- So is whatever is turned down of settings that have been read. -/
theorem isConfiguration_of_check (hRead : s.IsRead) (h : s.check = .error fault) :
    fault.isConfiguration = true := by
  obtain hWorkers | ⟨-, -, h⟩ := bind_eq_error_iff.mp h
  · obtain ⟨n, hInt, hFits⟩ := hRead.workers
    rw [checkWorkers, hInt] at hWorkers
    change (if decide (n < 1) = true then _ else _) = _ at hWorkers
    split at hWorkers
    · have hText : (Value.int n).hasText = true := hFits
      exact isConfiguration_of_turnDown hText hWorkers
    · cases hWorkers
  obtain hTimeout | ⟨-, -, h⟩ := bind_eq_error_iff.mp h
  · rw [checkTimeout] at hTimeout
    obtain hNull | ⟨x, hFloat⟩ := hRead.timeout
    · rw [hNull] at hTimeout
      cases hTimeout
    · rw [hFloat] at hTimeout
      change (if x.lessThan 0 = true then _ else _) = _ at hTimeout
      split at hTimeout
      · exact isConfiguration_of_turnDown rfl hTimeout
      · cases hTimeout
  obtain hPolicy | ⟨-, -, h⟩ := bind_eq_error_iff.mp h
  · obtain ⟨t, hText⟩ := hRead.emptyPolicy
    rw [checkEmptyPolicy] at hPolicy
    split at hPolicy
    · cases hPolicy
    · rw [hText] at hPolicy
      exact isConfiguration_of_turnDown rfl hPolicy
  · obtain ⟨t, hText⟩ := hRead.logLevel
    rw [checkLogLevel, hText] at h
    dsimp only at h
    split at h
    · cases h
    · exact isConfiguration_of_turnDown rfl h

/-- Nothing that is turned down of such settings has to be reported once more. -/
theorem refusal?_of_check (hRead : s.IsRead) (h : s.check = .error fault) :
    fault.refusal? = none := by
  have hConfiguration := isConfiguration_of_check hRead h
  rw [Fault.isConfiguration, Option.any_eq_true] at hConfiguration
  obtain ⟨problem, hProblem, -⟩ := hConfiguration
  exact Fault.refusal?_of_problem? hProblem

theorem make_toTable (s : PublisherSettings) (isStated : Bool) :
    settingsClass.make s.toTable isStated = s.check := by
  have hMake : settingsClass.make s.toTable isStated = settingsClass.check s.toTable := by
    cases isStated <;> rfl
  rw [hMake, settingsClass]
  simp only [ofTable_toTable]
  cases s.check <;> rfl

/-- What the class says of values that have been read is what the check says of such settings. -/
theorem exists_check_of_make {made : Made} {isStated : Bool} {outcome : Except Fault Unit}
    (hAll : GiveAll lead texts fields made)
    (hMake : settingsClass.make made.values isStated = outcome) :
    ∃ s : PublisherSettings, made.values = s.toTable ∧ s.IsRead ∧ s.check = outcome := by
  obtain ⟨s, hTable, hRead⟩ := isRead_of_giveAll hAll
  rw [hTable, make_toTable] at hMake
  exact ⟨s, hTable, hRead, hMake⟩

/-- **Texts give settings or a problem of configuration.** -/
theorem ofEnvironment_of_texts (texts : Table Text) :
    (∃ s, ofEnvironment (asEnvironment texts) = .ok s ∧ s.IsRead ∧ s.check = .ok ())
    ∨ ∃ fault, ofEnvironment (asEnvironment texts) = .error fault
        ∧ fault.isConfiguration = true := by
  have hLoads := settingsClass.loads_load texts
  rw [ofEnvironment]
  generalize settingsClass.load (asEnvironment texts) = outcome at hLoads ⊢
  cases hLoads with
  | keyless hKeys => cases hKeys
  | failed hKeys hFields hFront hField =>
    cases hField with
    | missing => exact .inr ⟨_, rfl, rfl⟩
    | unreadable => exact .inr ⟨_, rfl, rfl⟩
  | loaded hKeys hAll hMake =>
    obtain ⟨s, hTable, hRead, hCheck⟩ := exists_check_of_make hAll hMake
    refine .inl ⟨s, ?_, hRead, hCheck⟩
    refine bind_eq_ok_iff.mpr ⟨_, rfl, ?_⟩
    rw [hTable, ofTable_toTable, hCheck]
    rfl
  | refused hKeys hAll hMake hRefusal =>
    obtain ⟨s, -, hRead, hCheck⟩ := exists_check_of_make hAll hMake
    rw [refusal?_of_check hRead hCheck] at hRefusal
    cases hRefusal
  | untold hKeys hAll hMake hRefusal =>
    obtain ⟨s, -, hRead, hCheck⟩ := exists_check_of_make hAll hMake
    rw [refusal?_of_check hRead hCheck] at hRefusal
    cases hRefusal
  | passed hKeys hAll hMake =>
    obtain ⟨s, -, hRead, hCheck⟩ := exists_check_of_make hAll hMake
    exact .inr ⟨_, rfl, isConfiguration_of_check hRead hCheck⟩

end PublisherSettings

-- ---------------------------------------------------------------------------
-- What comes of loading
-- ---------------------------------------------------------------------------

namespace Settings.SettingsClass

/-- **What comes of loading a class from texts.** It is what the fields and the class say, in this
order; the class is asked about what every field gives, and where all defaults are values this is a
value of every field. A fault of the class that turns values down is told as a problem of
configuration with this fault for its cause, and no problem is such a fault. Texts that agree under
the keys of the fields give the same. And whatever the texts, they give the settings of a publisher
or a problem of configuration. -/
theorem load_eq_iff_loads (c : SettingsClass) (texts : Table Text) :
    (∀ outcome, c.load (asEnvironment texts) = outcome ↔ Loads c texts outcome)
    ∧ (∀ made, GiveAll c.lead texts c.fields made →
      Table.keys made = c.fields.map Field.name
      ∧ ((∀ field ∈ c.fields, ∀ d, field.default? = some d → ∃ v, d.value? = some v) →
        Table.keys made.values = c.fields.map Field.name))
    ∧ (∀ cause refusal, Fault.refusal? cause = some refusal →
      ∃ problem, (Fault.settingsFailed cause).problem? = some problem
        ∧ problem.subject.family = .configuration
        ∧ problem.cause = some (refusal.describe cause.reason))
    ∧ (∀ fault problem, Fault.problem? fault = some problem → fault.refusal? = none)
    ∧ (∀ texts' : Table Text,
      (∀ key ∈ c.envKeys, Table.get? texts key = Table.get? texts' key) →
        c.load (asEnvironment texts) = c.load (asEnvironment texts'))
    ∧ ((∃ s, PublisherSettings.ofEnvironment (asEnvironment texts) = .ok s)
      ∨ ∃ fault, PublisherSettings.ofEnvironment (asEnvironment texts) = .error fault
        ∧ fault.isConfiguration = true) := by
  refine ⟨?_, fun made hAll => ⟨hAll.keys_eq, hAll.keys_values_eq⟩, ?_,
    fun fault problem => Fault.refusal?_of_problem?, fun texts' => load_congr, ?_⟩
  · intro outcome
    constructor
    · rintro rfl
      exact loads_load c texts
    · exact load_of_loads
  · intro cause refusal hRefusal
    refine ⟨_, rfl, rfl, ?_⟩
    rw [hRefusal, Option.map_some]
  · obtain ⟨s, hSettings, -⟩ | hFault := PublisherSettings.ofEnvironment_of_texts texts
    · exact .inl ⟨s, hSettings⟩
    · exact .inr hFault

/-- Two texts that cannot be read, the later field's before the earlier one's. -/
def unreadableTexts : Table Text := [
  ("EVENTMAP_ADMISSION_TIMEOUT".toList, "soon".toList),
  ("EVENTMAP_WORKER_POOL_SIZE".toList, "many".toList)]

/-- The first field decides, and a variable of another name does not matter. -/
theorem load_eq_iff_loads_publisher :
    (∀ field ∈ PublisherSettings.settingsClass.fields, ∀ d, field.default? = some d →
      ∃ v, d.value? = some v)
    ∧ (∀ key ∈ PublisherSettings.settingsClass.envKeys, Table.get? unreadableTexts key
      = Table.get? (("HOME".toList, "/".toList) :: unreadableTexts) key)
    ∧ (∀ made, GiveAll PublisherSettings.lead [] PublisherSettings.fields made →
      Table.keys made.values = PublisherSettings.fields.map Field.name)
    ∧ PublisherSettings.settingsClass.load (asEnvironment unreadableTexts)
      = .error (.invalidSetting "EVENTMAP_WORKER_POOL_SIZE".toList (.text "many".toList)
          "invalid literal for int() with base 10: 'many'".toList)
    ∧ PublisherSettings.settingsClass.load
        (asEnvironment (("HOME".toList, "/".toList) :: unreadableTexts))
      = .error (.invalidSetting "EVENTMAP_WORKER_POOL_SIZE".toList (.text "many".toList)
          "invalid literal for int() with base 10: 'many'".toList) := by
  have hDefaults : ∀ field ∈ PublisherSettings.settingsClass.fields, ∀ d,
      field.default? = some d → ∃ v, d.value? = some v := by
    simp [PublisherSettings.settingsClass, PublisherSettings.fields, Default.value?]
  have hKeys : PublisherSettings.settingsClass.envKeys = ["EVENTMAP_WORKER_POOL_SIZE".toList,
      "EVENTMAP_ADMISSION_TIMEOUT".toList, "EVENTMAP_EMPTY_EVENT_POLICY".toList,
      "EVENTMAP_LOG_LEVEL".toList, "EVENTMAP_JSON_LOGS".toList] := by
    decide +kernel
  have hAgree : ∀ key ∈ PublisherSettings.settingsClass.envKeys, Table.get? unreadableTexts key
      = Table.get? (("HOME".toList, "/".toList) :: unreadableTexts) key := by
    rw [hKeys]
    decide
  have hDecode : decode "int".toList (.text "many".toList)
      = .error (.notInteger "many".toList) := by
    have hNumeral : readNumeral? "many".toList = none := by decide +kernel
    rw [PublisherSettings.decode_int, integerOfText, hNumeral]
    rfl
  have hFails : Fails PublisherSettings.lead unreadableTexts
      ⟨PublisherSettings.workersName, "int".toList, some (.value (.int 4))⟩
      (.invalidSetting "EVENTMAP_WORKER_POOL_SIZE".toList (.text "many".toList)
        "invalid literal for int() with base 10: 'many'".toList) := by
    have hKey : envKey PublisherSettings.lead PublisherSettings.workersName
        = "EVENTMAP_WORKER_POOL_SIZE".toList := by
      decide +kernel
    rw [← hKey]
    refine .unreadable ?_ hDecode ?_
    · rw [hKey]
      decide
    · decide +kernel
  obtain ⟨hOutcome, -, -, -, hSame, -⟩ :=
    load_eq_iff_loads PublisherSettings.settingsClass unreadableTexts
  obtain ⟨-, hKept, -⟩ := load_eq_iff_loads PublisherSettings.settingsClass []
  have hLoad := (hOutcome _).mpr (.failed rfl (by rfl) .nil hFails)
  exact ⟨hDefaults, hAgree, fun made hAll => (hKept made hAll).2 hDefaults, hLoad,
    (hSame _ hAgree) ▸ hLoad⟩

/-- A field with a value in the place of the maker of keys. -/
def keyField : Field := ⟨keyName, "str".toList, some (.value (.text "x".toList))⟩

/-- The class that turns down whatever it is given, for a number that it cannot write. -/
def wordlessClass : SettingsClass where
  lead := "app".toList
  fields := []
  check := fun table =>
    (checkOwn [] table >>= fun _ => .error (.refused .ofValue (.int unwritable)))

/-- **A class with such a field is not loaded**, and what is told is no problem of configuration,
though the class can be declared, the field has its default, and the class takes it. Nor is one told
if the class turns its values down in words that cannot be written. -/
theorem load_of_keyField :
    (∃ c : SettingsClass,
      declare (.text "app".toList) [⟨.text keyName, "str".toList, some (.text "x".toList), true⟩]
        (fun _ => .ok ()) = .ok c
      ∧ c.fields = [keyField]
      ∧ GiveAll c.lead [] c.fields [(keyName, some (.text "x".toList))]
      ∧ c.make [(keyName, .text "x".toList)] (c.isStated []) = .ok ()
      ∧ c.load (asEnvironment []) = .error .wrongType
      ∧ Fault.wrongType.isConfiguration = false)
    ∧ declare (.text "app".toList) [] (fun _ => .error (.refused .ofValue (.int unwritable)))
      = .ok wordlessClass
    ∧ wordlessClass.load (asEnvironment []) = .error .unwritableInteger
    ∧ Fault.unwritableInteger.isConfiguration = false := by
  have hName : isFieldName keyName = true := by decide +kernel
  have hFields : fieldsOf (.text "app".toList) []
      [⟨.text keyName, "str".toList, some (.text "x".toList), true⟩] = .ok [keyField] := by
    simp only [fieldsOf, hName]
    rfl
  have hSpelling : checkSpelling keyField = .ok () := by
    have hNormal : isNormal keyName = true := by decide +kernel
    rw [checkSpelling, show keyField.name = keyName from rfl, hNormal]
    rfl
  have hDeclare : declare (.text "app".toList)
      [⟨.text keyName, "str".toList, some (.text "x".toList), true⟩] (fun _ => .ok ())
      = .ok ⟨"app".toList, [keyField], fun table => (checkOwn [keyField] table >>= fun _ => .ok ()),
          false, true⟩ := by
    refine bind_eq_ok_iff.mpr ⟨_, hFields, bind_eq_ok_iff.mpr ⟨(), rfl, ?_⟩⟩
    refine bind_eq_ok_iff.mpr ⟨(), rfl, bind_eq_ok_iff.mpr ⟨(), rfl, ?_⟩⟩
    refine bind_eq_ok_iff.mpr ⟨(), rfl, bind_eq_ok_iff.mpr ⟨(), ?_, rfl⟩⟩
    exact bind_eq_ok_iff.mpr ⟨(), hSpelling, rfl⟩
  have hDefault : Gives "app".toList [] keyField (some (.text "x".toList)) := .of_value rfl rfl
  have hMake : wordlessClass.make (Made.values []) (wordlessClass.isStated [])
      = .error (.refused .ofValue (.int unwritable)) := rfl
  refine ⟨⟨_, hDeclare, rfl, .cons hDefault .nil, rfl, rfl, rfl⟩, rfl, ?_, rfl⟩
  exact load_of_loads (.untold rfl .nil hMake rfl Value.hasText_unwritable)

end Settings.SettingsClass

end EventLoom
