import EventLoom.Proofs.Comparison
import EventLoom.Proofs.LoadOutcome

/-!
# What accepted settings of a publisher keep

The settings of a publisher are accepted by turning down what is wrong: too few workers, a time
below zero, a policy or a level without a known name. What is left keeps the opposite (`Kept`). For
the names this is what they were asked for. For the numbers it is a little less, since a binary NaN
is not below anything: it passes for a number of workers and for a time, though it is neither at
least one nor at least zero. Nothing else passes, be it of any kind.

It does not matter where the settings come from, for all of them are looked at when they are made.
From texts no NaN arrives as the number of workers, which is read as an integer; as the time it may.

## Results

* `checkWorkers_eq_ok_iff`, `checkTimeout_eq_ok_iff`, `checkEmptyPolicy_eq_ok_iff`,
  `checkLogLevel_eq_ok_iff` — what each check lets pass.
* `check_eq_ok_iff_kept` — and all of them together.
* `accepted_iff_kept` — settings from either source keep it, and what keeps it is accepted.
* `not_promised_nan` — a time that is no number is accepted.
-/

namespace EventLoom

open Text Settings

theorem Value.asText?_eq_some_iff {v : Value} {t : Text} : v.asText? = some t ↔ v = .text t := by
  cases v with
  | text u => exact ⟨fun h => congrArg _ (Option.some.inj h), fun h => congrArg some (text.inj h)⟩
  | _ => exact iff_of_false nofun nofun

theorem EmptyPolicy.ofName?_eq_some_iff {t : Text} {policy : EmptyPolicy} :
    ofName? t = some policy ↔ t = policy.name := by
  constructor
  · intro h
    rw [ofName?] at h
    repeat' split at h
    all_goals cases h
    all_goals assumption
  · rintro rfl
    exact ofName?_name policy

namespace PublisherSettings

/-- What accepted settings keep. -/
structure Kept (s : PublisherSettings) : Prop where
  workers : s.workers.IsAtLeast 1 ∨ s.workers = .float .nan
  timeout : s.timeout = .null ∨ s.timeout.IsAtLeast 0 ∨ s.timeout = .float .nan
  emptyPolicy : ∃ policy, s.emptyPolicy = .text (EmptyPolicy.name policy)
    ∧ EmptyPolicy.ofValue s.emptyPolicy = .ok policy
  logLevel : ∃ t, s.logLevel = .text t ∧ upper t ∈ knownLevels

-- ---------------------------------------------------------------------------
-- One check
-- ---------------------------------------------------------------------------

/-- What is no number is told apart, and nothing else is changed. -/
theorem isBelow_eq_ok_iff {v : Value} {bound : Int} {below : Bool} :
    isBelow v bound = .ok below ↔ v.isBelow bound = .ok below := by
  rw [isBelow]
  cases v.isBelow bound with
  | ok _ => exact Iff.rfl
  | error _ => exact iff_of_false nofun nofun

/-- Turning down what is below a bound leaves what is not below it. -/
theorem rejectBelow_eq_ok_iff {v : Value} {bound : Int} {name reason : Text} :
    (isBelow v bound >>= fun below => if below then turnDown name v reason else pure ()) = .ok () ↔
      v.IsAtLeast bound ∨ v = .float .nan := by
  rw [bind_eq_ok_iff, ← Value.isBelow_eq_false_iff]
  constructor
  · rintro ⟨below, hBelow, h⟩
    cases below with
    | true => cases h
    | false => exact isBelow_eq_ok_iff.mp hBelow
  · intro h
    exact ⟨false, isBelow_eq_ok_iff.mpr h, rfl⟩

variable {s : PublisherSettings}

theorem checkWorkers_eq_ok_iff :
    s.checkWorkers = .ok () ↔ s.workers.IsAtLeast 1 ∨ s.workers = .float .nan :=
  rejectBelow_eq_ok_iff

theorem checkTimeout_eq_ok_iff :
    s.checkTimeout = .ok () ↔
      s.timeout = .null ∨ s.timeout.IsAtLeast 0 ∨ s.timeout = .float .nan := by
  by_cases hNull : s.timeout = .null
  · rw [checkTimeout, hNull]
    exact iff_of_true rfl (.inl rfl)
  · have hCheck : s.checkTimeout = (isBelow s.timeout 0 >>= fun below => if below then
        turnDown timeoutName s.timeout "must be >= 0".toList else pure ()) := by
      rw [checkTimeout]
      split
      · contradiction
      · rfl
    rw [hCheck, rejectBelow_eq_ok_iff, or_iff_right hNull]

theorem checkEmptyPolicy_eq_ok_iff :
    s.checkEmptyPolicy = .ok () ↔ ∃ policy, s.emptyPolicy = .text (EmptyPolicy.name policy)
      ∧ EmptyPolicy.ofValue s.emptyPolicy = .ok policy := by
  constructor
  · intro h
    rcases hPolicy : s.emptyPolicy? with _ | policy
    · rw [checkEmptyPolicy, hPolicy] at h
      cases h
    · obtain ⟨t, hText, hName⟩ := Option.bind_eq_some_iff.mp hPolicy
      refine ⟨policy, ?_, ?_⟩
      · rw [Value.asText?_eq_some_iff.mp hText, EmptyPolicy.ofName?_eq_some_iff.mp hName]
      · rw [emptyPolicy?] at hPolicy
        rw [EmptyPolicy.ofValue, hPolicy]
  · rintro ⟨policy, hText, -⟩
    have hPolicy : s.emptyPolicy? = some policy := by
      rw [emptyPolicy?, hText]
      exact EmptyPolicy.ofName?_name policy
    rw [checkEmptyPolicy, hPolicy]

theorem checkLogLevel_eq_ok_iff :
    s.checkLogLevel = .ok () ↔ ∃ t, s.logLevel = .text t ∧ upper t ∈ knownLevels := by
  rw [checkLogLevel]
  cases s.logLevel with
  | text t =>
    constructor
    · intro h
      dsimp only at h
      split at h
      · rename_i hKnown
        exact ⟨t, rfl, List.contains_iff_mem.mp hKnown⟩
      · cases h
    · rintro ⟨t, ⟨⟩, hKnown⟩
      exact if_pos (List.contains_iff_mem.mpr hKnown)
  | _ =>
    constructor
    · intro h
      cases h
    · rintro ⟨t, ⟨⟩, -⟩

/-- One check after another lets pass what both let pass. -/
theorem andThen_eq_ok_iff {first rest : Except Fault Unit} :
    (first >>= fun _ => rest) = .ok () ↔ first = .ok () ∧ rest = .ok () := by
  rw [bind_eq_ok_iff]
  exact ⟨fun ⟨_, hFirst, hRest⟩ => ⟨hFirst, hRest⟩, fun ⟨hFirst, hRest⟩ => ⟨(), hFirst, hRest⟩⟩

/-- **The checks let pass what keeps what is asked for**, but for a NaN among the numbers. -/
theorem check_eq_ok_iff_kept : s.check = .ok () ↔ s.Kept := by
  rw [check, andThen_eq_ok_iff, andThen_eq_ok_iff, andThen_eq_ok_iff, checkWorkers_eq_ok_iff,
    checkTimeout_eq_ok_iff, checkEmptyPolicy_eq_ok_iff, checkLogLevel_eq_ok_iff]
  constructor
  · rintro ⟨hWorkers, hTimeout, hPolicy, hLevel⟩
    exact ⟨hWorkers, hTimeout, hPolicy, hLevel⟩
  · rintro ⟨hWorkers, hTimeout, hPolicy, hLevel⟩
    exact ⟨hWorkers, hTimeout, hPolicy, hLevel⟩

-- ---------------------------------------------------------------------------
-- Settings from either source
-- ---------------------------------------------------------------------------

theorem check_of_ofTable {table : Table Value} (h : ofTable table = .ok s) : s.check = .ok () := by
  rw [ofTable] at h
  split at h
  · obtain ⟨⟨⟩, hCheck, hDone⟩ := bind_eq_ok_iff.mp h
    cases hDone
    exact hCheck
  · cases h

theorem check_of_ofEnvironment {environment : Table Value} (h : ofEnvironment environment = .ok s) :
    s.check = .ok () := by
  obtain ⟨table, -, hTable⟩ := bind_eq_ok_iff.mp h
  exact check_of_ofTable hTable

theorem ofEnvironment_of_giveAll {texts : Table Text}
    (hAll : GiveAll lead texts fields (.ofValues s.toTable)) (hCheck : s.check = .ok ()) :
    ofEnvironment (asEnvironment texts) = .ok s := by
  have hMake : settingsClass.make (Made.ofValues s.toTable).values (settingsClass.isStated texts)
      = .ok () := by
    rw [Made.values_ofValues, make_toTable, hCheck]
  refine bind_eq_ok_iff.mpr ⟨.ofValues s.toTable, ?_, ?_⟩
  · exact SettingsClass.load_of_loads (.loaded rfl hAll hMake)
  · rw [Made.values_ofValues, ofTable_toTable, hCheck]
    rfl

/-- **Accepted settings keep what is asked for**, but for a NaN among the numbers, and wherever they
come from; and whatever keeps it is accepted. What comes from texts has an integer for its number of
workers, and a binary number or nothing for its time. -/
theorem accepted_iff_kept (s : PublisherSettings) :
    (ofTable s.toTable = .ok s ↔ s.Kept)
    ∧ (∀ table, ofTable table = .ok s → s.Kept)
    ∧ (∀ environment, ofEnvironment environment = .ok s → s.Kept)
    ∧ ∀ texts, ofEnvironment (asEnvironment texts) = .ok s →
      (∃ n, s.workers = .int n ∧ 1 ≤ n) ∧ (s.timeout = .null ∨ ∃ x, s.timeout = .float x) := by
  refine ⟨⟨?_, ?_⟩, ?_, ?_, ?_⟩
  · intro h
    exact check_eq_ok_iff_kept.mp (check_of_ofTable h)
  · intro hKept
    rw [ofTable_toTable, check_eq_ok_iff_kept.mpr hKept]
    rfl
  · intro table h
    exact check_eq_ok_iff_kept.mp (check_of_ofTable h)
  · intro environment h
    exact check_eq_ok_iff_kept.mp (check_of_ofEnvironment h)
  · intro texts h
    have hRead : s.IsRead := by
      obtain ⟨s', hSettings, hRead, -⟩ | ⟨fault, hFault, -⟩ := ofEnvironment_of_texts texts
      · rw [h] at hSettings
        cases hSettings
        exact hRead
      · rw [h] at hFault
        cases hFault
    refine ⟨?_, hRead.timeout⟩
    obtain ⟨n, hInt, -⟩ := hRead.workers
    have hWorkers := (check_eq_ok_iff_kept.mp (check_of_ofEnvironment h)).workers
    rw [hInt, or_iff_left nofun, Value.isAtLeast_int] at hWorkers
    exact ⟨n, hInt, hWorkers⟩

-- ---------------------------------------------------------------------------
-- A time that is no number
-- ---------------------------------------------------------------------------

/-- A text for a time that is no number. -/
def nanTexts : Table Text := [("EVENTMAP_ADMISSION_TIMEOUT".toList, "nan".toList)]

/-- The settings that it gives. -/
def nanSettings : PublisherSettings := { timeout := .float .nan }

theorem kept_nanSettings : nanSettings.Kept where
  workers := .inl (Value.isAtLeast_int.mpr (by decide))
  timeout := .inr (.inr rfl)
  emptyPolicy := ⟨.null, rfl, rfl⟩
  logLevel := ⟨"INFO".toList, rfl, by decide +kernel⟩

theorem ofEnvironment_nanTexts : ofEnvironment (asEnvironment nanTexts) = .ok nanSettings := by
  refine ofEnvironment_of_giveAll ?_ (check_eq_ok_iff_kept.mpr kept_nanSettings)
  have hAbsent : ∀ name ∈ [workersName, emptyPolicyName, logLevelName, jsonLogsName],
      Table.get? nanTexts (envKey lead name) = none := by
    decide +kernel
  have hText : Table.get? nanTexts (envKey lead timeoutName) = some "nan".toList := by
    decide +kernel
  have hDecode : decode "float | None".toList (.text "nan".toList) = .ok (.float .nan) := by
    have hWord : nullWords.contains (lower (strip "nan".toList)) = false := by decide +kernel
    have hReal : Number.readReal? "nan".toList = some .nan := by decide +kernel
    rw [decode_float, hWord, Number.realOfText, hReal]
    rfl
  have hDefault : ∀ name ∈ [workersName, emptyPolicyName, logLevelName, jsonLogsName],
      ∀ hint v, Gives lead nanTexts ⟨name, hint, some (.value v)⟩ (some v) :=
    fun name hName hint v => .of_value (hAbsent name hName) rfl
  have hTimeout : Gives lead nanTexts ⟨timeoutName, "float | None".toList, some (.value .null)⟩
      (some (.float .nan)) :=
    .decoded hText hDecode
  exact .cons (hDefault workersName (by simp) _ (.int 4)) (.cons hTimeout
    (.cons (hDefault emptyPolicyName (by simp) _ (.text (EmptyPolicy.name .null)))
      (.cons (hDefault logLevelName (by simp) _ (.text "INFO".toList))
        (.cons (hDefault jsonLogsName (by simp) _ (.bool true)) .nil))))

theorem accepted_iff_kept_nan :
    ofTable nanSettings.toTable = .ok nanSettings
    ∧ ofEnvironment (asEnvironment nanTexts) = .ok nanSettings
    ∧ nanSettings.Kept ∧ ∃ n, nanSettings.workers = .int n ∧ 1 ≤ n := by
  obtain ⟨hOwn, -, hEnvironment, hTexts⟩ := accepted_iff_kept nanSettings
  have hAccepted : ofTable nanSettings.toTable = .ok nanSettings := hOwn.mpr kept_nanSettings
  have hLoaded : ofEnvironment (asEnvironment nanTexts) = .ok nanSettings := ofEnvironment_nanTexts
  have hKept : nanSettings.Kept := hEnvironment _ hLoaded
  exact ⟨hAccepted, hLoaded, hKept, (hTexts nanTexts hLoaded).1⟩

/-- **A time that is no number is accepted**, though there is a time and it is not at least zero. -/
theorem not_promised_nan :
    ofEnvironment (asEnvironment nanTexts) = .ok nanSettings
    ∧ nanSettings.timeout ≠ .null ∧ ¬nanSettings.timeout.IsAtLeast 0 :=
  ⟨ofEnvironment_nanTexts, nofun, Value.not_isAtLeast_nan 0⟩

end PublisherSettings

end EventLoom
