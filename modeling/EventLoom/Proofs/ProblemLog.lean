import EventLoom.Fault

/-!
# What a log entry about a problem keeps of its details

A log entry tells the code of a problem and its message under two names of its own, and the details
of the problem beside them, each under its own name. The names of the details are not the entry's to
choose: a detail that is called as one of the entry's own two fields gives way to that field.

So what an entry keeps is a question of names, and those are the subject's. A problem that brings
its own details may bring any. All others have their names from this library, and one subject among
them uses a name that is taken: an invalid setting has its reason for a detail, and `reason` is
where an entry tells the code. This detail cannot be looked up in the log; only the message, which
ends with it, still says what was wrong.

## Results

* `Table.mem_put_text_iff` — what is in a table after a write.
* `mem_logFields_iff` — what is in an entry.
* `keepsDetail_iff` — when all details are.
* `logFields_keep_detail_iff` — whose details are.
-/

namespace EventLoom

-- ---------------------------------------------------------------------------
-- Writing under a name
-- ---------------------------------------------------------------------------

namespace Table

/-- No key is there twice. -/
def Distinct (t : Entries) : Prop := (keys t).Pairwise fun a b => (a == b) = false

theorem Distinct.put {t : Entries} (h : Distinct t) (key : Key) (value : Value) :
    Distinct (Table.put key value t) := by
  cases hKey : (keys t).any (· == key) with
  | true =>
    rw [Distinct, keys_put_of_contains hKey]
    exact h
  | false =>
    rw [Distinct, put_of_not_contains hKey, keys, List.map_append, List.pairwise_append]
    refine ⟨h, List.pairwise_singleton _ _, fun other hOther last hLast => ?_⟩
    rw [List.mem_singleton.mp hLast]
    exact Bool.eq_false_iff.mpr (List.any_eq_false.mp hKey other hOther)

/-- **A write** is there afterwards, and beside it what is under other names. -/
theorem mem_put_text_iff {t : Entries} (h : Distinct t) {name : Text} {value : Value}
    {entry : Key × Value} :
    entry ∈ put (.text name) value t
      ↔ (entry ∈ t ∧ entry.1 ≠ .text name) ∨ entry = (.text name, value) := by
  induction t with
  | nil => simp [put]
  | cons first rest ih =>
    rw [Distinct, keys, List.map_cons, List.pairwise_cons] at h
    obtain ⟨hFirst, hRest⟩ := h
    rw [put]
    split
    · rename_i hSame
      have hName : first.1 = .text name := Key.beq_text_iff_eq.mp hSame
      -- the name is not there again behind the entry that is replaced
      have hOthers : ∀ other ∈ rest, other.1 ≠ .text name := by
        intro other hOther hAgain
        have hApart := hFirst other.1 (List.mem_map_of_mem hOther)
        rw [hName, hAgain, BEq.rfl] at hApart
        cases hApart
      rw [List.mem_cons, List.mem_cons, hName]
      constructor
      · rintro (rfl | hOther)
        · exact .inr rfl
        · exact .inl ⟨.inr hOther, hOthers entry hOther⟩
      · rintro (⟨rfl | hOther, hNe⟩ | rfl)
        · exact absurd hName hNe
        · exact .inr hOther
        · exact .inl rfl
    · rename_i hOther
      have hName : first.1 ≠ .text name := fun hEq => hOther (Key.beq_text_iff_eq.mpr hEq)
      rw [List.mem_cons, List.mem_cons, ih hRest]
      constructor
      · rintro (rfl | ⟨hMem, hNe⟩ | rfl)
        · exact .inl ⟨.inl rfl, hName⟩
        · exact .inl ⟨.inr hMem, hNe⟩
        · exact .inr rfl
      · rintro (⟨rfl | hMem, hNe⟩ | rfl)
        · exact .inl rfl
        · exact .inr (.inl ⟨hMem, hNe⟩)
        · exact .inr (.inr rfl)

end Table

namespace Problem

open Table (Distinct)

-- ---------------------------------------------------------------------------
-- The fields of an entry
-- ---------------------------------------------------------------------------

/-- Where an entry tells the code. -/
def codeField : Key := .text "reason".toList

/-- Where it tells the message. -/
def messageField : Key := .text "error".toList

theorem codeField_ne_messageField : codeField ≠ messageField := by simp [codeField, messageField]

variable {p : Problem}

/-- **What is in an entry**: the code, the message, and the details under other names. -/
theorem mem_logFields_iff (hNames : Distinct p.detail) {entry : Key × Value} :
    entry ∈ p.logFields ↔
      (entry ∈ p.detail ∧ entry.1 ≠ codeField ∧ entry.1 ≠ messageField)
        ∨ entry = (codeField, p.code) ∨ entry = (messageField, p.message) := by
  rw [logFields, Table.mem_put_text_iff (hNames.put _ _), Table.mem_put_text_iff hNames]
  constructor
  · rintro (⟨⟨hMem, hCode⟩ | rfl, hMessage⟩ | rfl)
    · exact .inl ⟨hMem, hCode, hMessage⟩
    · exact .inr (.inl rfl)
    · exact .inr (.inr rfl)
  · rintro (⟨hMem, hCode, hMessage⟩ | rfl | rfl)
    · exact .inl ⟨.inl ⟨hMem, hCode⟩, hMessage⟩
    · exact .inl ⟨.inr rfl, codeField_ne_messageField⟩
    · exact .inr rfl

/-- Every detail of the problem is in the log entry as it is. -/
def KeepsDetail (p : Problem) : Prop := ∀ entry ∈ p.detail, entry ∈ p.logFields

/-- Details give way only to what the entry says under their names itself. -/
theorem keepsDetail_iff (hNames : Distinct p.detail) :
    p.KeepsDetail ↔ (∀ value, (codeField, value) ∈ p.detail → value = p.code)
      ∧ ∀ value, (messageField, value) ∈ p.detail → value = p.message := by
  constructor
  · intro h
    constructor
    · intro value hMem
      rcases (mem_logFields_iff hNames).mp (h _ hMem) with ⟨-, hNe, -⟩ | hEq | hEq
      · exact absurd rfl hNe
      · exact congrArg Prod.snd hEq
      · exact absurd (congrArg Prod.fst hEq) codeField_ne_messageField
    · intro value hMem
      rcases (mem_logFields_iff hNames).mp (h _ hMem) with ⟨-, -, hNe⟩ | hEq | hEq
      · exact absurd rfl hNe
      · exact absurd (congrArg Prod.fst hEq).symm codeField_ne_messageField
      · exact congrArg Prod.snd hEq
  · rintro ⟨hCode, hMessage⟩ ⟨name, value⟩ hMem
    refine (mem_logFields_iff hNames).mpr ?_
    by_cases hName : name = codeField
    · subst hName
      rw [hCode value hMem]
      exact .inr (.inl rfl)
    by_cases hName' : name = messageField
    · subst hName'
      rw [hMessage value hMem]
      exact .inr (.inr rfl)
    · exact .inl ⟨hMem, hName, hName'⟩

-- ---------------------------------------------------------------------------
-- Names that are taken
-- ---------------------------------------------------------------------------

/-- The details leave the entry's own names to it. -/
def Undisputed (detail : Entries) : Prop :=
  codeField ∉ Table.keys detail ∧ messageField ∉ Table.keys detail

theorem keepsDetail_of_undisputed (hNames : Distinct p.detail) (h : Undisputed p.detail) :
    p.KeepsDetail := by
  rw [keepsDetail_iff hNames]
  exact ⟨fun _ hMem => absurd (List.mem_map_of_mem hMem) h.1,
    fun _ hMem => absurd (List.mem_map_of_mem hMem) h.2⟩

/-- It can be read off the names of the details. -/
theorem undisputed_of_names {detail : Entries} (names : List Text)
    (hNames : Table.keys detail = names.map .text)
    (hOwn : ("reason".toList :: "error".toList :: names).Nodup) :
    Distinct detail ∧ Undisputed detail := by
  obtain ⟨hReason, hRest⟩ := List.nodup_cons.mp hOwn
  obtain ⟨hError, hApart⟩ := List.nodup_cons.mp hRest
  have hOnly : ∀ {name : Text}, name ∉ names → Key.text name ∉ Table.keys detail := by
    intro name hName hMem
    rw [hNames] at hMem
    obtain ⟨other, hOther, hEq⟩ := List.mem_map.mp hMem
    exact hName (Key.text.inj hEq ▸ hOther)
  refine ⟨?_, hOnly fun hMem => hReason (List.mem_cons_of_mem _ hMem), hOnly hError⟩
  rw [Distinct, hNames]
  exact Key.pairwise_text hApart

/-- Where a problem does not bring its own details, only an invalid setting takes a name that is
taken. -/
theorem Subject.undisputed_or (s : Subject)
    (hOwn : ∀ family message detail, s = .plain family message detail → Undisputed detail) :
    Undisputed s.detail ∨ ∃ name value reason, s = .invalidSetting name value reason := by
  cases s with
  | plain family message detail => exact .inl (hOwn family message detail rfl)
  | malformedTemplate position =>
    exact .inl (undisputed_of_names ["position".toList] rfl (by decide)).2
  | unknownProperty property streamId =>
    exact .inl (undisputed_of_names ["property".toList, "stream_id".toList] rfl (by decide)).2
  | render message key index =>
    exact .inl (undisputed_of_names ["key".toList, "index".toList] rfl (by decide)).2
  | missingSetting name =>
    exact .inl (undisputed_of_names ["setting".toList] rfl (by decide)).2
  | invalidSetting name value reason => exact .inr ⟨name, value, reason, rfl⟩

/-- The reason of an invalid setting gives way to the code. -/
theorem keepsDetail_iff_of_invalidSetting {name value reason : Value}
    (h : p.subject = .invalidSetting name value reason) : p.KeepsDetail ↔ reason = p.code := by
  have hDetail : p.detail = [(.text "setting".toList, name),
      (.text "value".toList, .text value.quoted), (codeField, reason)] := by
    rw [Problem.detail, h]
    rfl
  have hNames : Distinct p.detail := by
    rw [hDetail]
    have hApart : ["setting".toList, "value".toList, "reason".toList].Nodup := by decide
    exact Key.pairwise_text hApart
  rw [keepsDetail_iff hNames, hDetail]
  simp [codeField, messageField]

/-- **What an entry keeps.** It tells the code and the message, and of the details those under other
names. So no detail of a problem is lost unless it is the reason of an invalid setting, where the
details that a problem may bring itself leave the entry's own names to it. -/
theorem logFields_keep_detail_iff (p : Problem) (hNames : Distinct p.detail)
    (hOwn : ∀ family message detail, p.subject = .plain family message detail →
      Undisputed detail) :
    (∀ entry, entry ∈ p.logFields ↔
        (entry ∈ p.detail ∧ entry.1 ≠ codeField ∧ entry.1 ≠ messageField)
          ∨ entry = (codeField, p.code) ∨ entry = (messageField, p.message))
      ∧ Distinct p.logFields
      ∧ (p.KeepsDetail ↔
        ∀ name value reason, p.subject = .invalidSetting name value reason → reason = p.code) := by
  refine ⟨fun entry => mem_logFields_iff hNames, (hNames.put _ _).put _ _, ?_⟩
  rcases p.subject.undisputed_or hOwn with hFree | ⟨name, value, reason, hSubject⟩
  · refine iff_of_true (keepsDetail_of_undisputed hNames hFree) ?_
    intro name value reason hSubject
    have hReason : codeField ∈ Table.keys p.subject.detail := by
      rw [hSubject]
      exact List.mem_of_mem_getLast? rfl
    exact absurd hReason hFree.1
  · rw [keepsDetail_iff_of_invalidSetting hSubject, hSubject]
    constructor
    · rintro rfl name' value' reason' hSame
      cases hSame
      rfl
    · intro h
      exact h name value reason rfl

theorem logFields_keep_detail_path :
    Undisputed [(.text "path".toList, .text "a.json".toList)]
      ∧ (ofMessage .configuration "Resource not found".toList
        [(.text "path".toList, .text "a.json".toList)]).KeepsDetail := by
  have hNames : Distinct [(.text "path".toList, .text "a.json".toList)]
      ∧ Undisputed [(.text "path".toList, .text "a.json".toList)] :=
    undisputed_of_names ["path".toList] rfl (by decide)
  refine ⟨hNames.2, (logFields_keep_detail_iff _ ?_ ?_).2.2.mpr nofun⟩
  · exact hNames.1
  · intro family message detail hSubject
    cases hSubject
    exact hNames.2

/-- What a setting was turned down for is not there under its name. -/
theorem invalidSetting_reason_lost :
    ¬ (⟨.invalidSetting (.text "APP_N".toList) (.text "x".toList) (.text "bad".toList), .null,
      none⟩ : Problem).KeepsDetail := by
  rw [keepsDetail_iff_of_invalidSetting rfl]
  intro h
  have hCode := Value.text.inj h
  revert hCode
  decide

end Problem

end EventLoom
