import EventLoom.Log.Call
import EventLoom.Proofs.Acceptance

/-!
# What the log keeps of a call

The entries of this library say what the log is called with, and `Entry.entries` what is assumed to
come of it. For calls of any kind the log is described apart from that, with loggers, levels and
names of its own (`Call`). The two fit together. A record holds what has been said before it and in
the call, except under the few names that the log writes itself or takes out; and what has been said
is merged in one way for both (`within`). So the record of an entry's call holds what the entry
holds (`get?_record_entry`).

Calls of the methods that log tell the loggers nothing. In a run of such calls each one finds the
loggers as they were at the start, so its record depends on no other call, and the setup alone
decides which records are held back.

## Results

* `Target.get?_record` — a record holds what has been said.
* `Target.get?_record_entry` — and that of an entry's call holds what the entry holds.
* `Target.left_eq_none_iff` — which records are held back.
* `records_of_logging` — calls of methods that log do not depend on each other.
-/

namespace EventLoom.Log

open Text

-- ---------------------------------------------------------------------------
-- One record
-- ---------------------------------------------------------------------------

section Lookup

variable {entries : Entries} {key : Key}

/-- Merging keeps what stands under a key that is not written. -/
theorem get?_merge_of_forall {more : Entries} (h : ∀ entry ∈ more, (entry.1 == key) = false) :
    Table.get? (Table.merge entries more) key = Table.get? entries key := by
  induction more generalizing entries with
  | nil => rfl
  | cons entry rest ih =>
    obtain ⟨hHere, hRest⟩ := List.forall_mem_cons.mp h
    have hMerge : Table.merge entries (entry :: rest)
        = Table.merge (Table.put entry.1 entry.2 entries) rest := rfl
    rw [hMerge, ih hRest, Table.get?_put, hHere, if_neg Bool.false_ne_true]

/-- Leaving entries out keeps what stands under a key that none of them has. -/
theorem get?_filter {p : Key × Value → Bool}
    (h : ∀ entry : Key × Value, (entry.1 == key) = true → p entry = true) :
    Table.get? (entries.filter p) key = Table.get? entries key := by
  induction entries with
  | nil => rfl
  | cons entry rest ih =>
    rw [Table.get?_cons, ← ih, List.filter_cons]
    split
    · rw [Table.get?_cons]
    · rename_i hLeft
      rw [if_neg fun hKey => hLeft (h entry hKey)]

end Lookup

namespace Target

variable {t : Target} {method : Method} {event : Value} {fields kept : Entries}

/-- A record is what has been said with the log's own marks, and without the names that mean
something to the log itself. -/
theorem get?_record_eq (h : t.record method event fields = .ok kept) {name : Text}
    (hFree : innerNames.contains name = false) :
    Table.get? kept (.text name)
      = Table.get? (Table.merge (t.said method fields) (t.stamp method event)) (.text name) := by
  have hKept : ∀ entry : Key × Value, (entry.1 == .text name) = true →
      (!(entry.1.asText?.any innerNames.contains)) = true := by
    intro entry hKey
    rw [Key.beq_text_iff_eq.mp hKey]
    show (!innerNames.contains name) = true
    rw [hFree]
    rfl
  unfold Target.record at h
  dsimp only at h
  split at h
  · cases h
    exact get?_filter hKept
  · cases h
    exact get?_filter hKept
  · cases h

/-- **A record holds what has been said**, under every name that is not one of the log's own. -/
theorem get?_record (h : t.record method event fields = .ok kept) {name : Text}
    (hFree : innerNames.contains name = false)
    (hMark : ∀ mark ∈ [eventName, "logger".toList, levelName], mark ≠ name) :
    Table.get? kept (.text name) = Table.get? (t.said method fields) (.text name) := by
  obtain ⟨hEvent, hOthers⟩ := List.forall_mem_cons.mp hMark
  obtain ⟨hLogger, hLevel⟩ := List.forall_mem_cons.mp hOthers
  have hStamped : ∀ entry ∈ t.stamp method event, (entry.1 == .text name) = false := by
    have hMarks : ∀ entry ∈ [(Key.text "logger".toList, Value.text t.logger),
        (.text levelName, .text method.level)], (entry.1 == .text name) = false :=
      List.forall_mem_cons.mpr ⟨Key.beq_text_of_ne hLogger,
        List.forall_mem_singleton.mpr (Key.beq_text_of_ne (hLevel _ (by simp)))⟩
    cases event with
    | null => exact hMarks
    | _ => exact List.forall_mem_cons.mpr ⟨Key.beq_text_of_ne hEvent, hMarks⟩
  rw [get?_record_eq h hFree, get?_merge_of_forall hStamped]

end Target

/-- The call that an entry is, of some logger and while a stream is at work. -/
def Entry.target (e : Entry) (logger streamId : Text) : Target :=
  ⟨logger, [(streamField, .text streamId)], [], .record e.method, e.fields⟩

/-- **The record of an entry's call holds what the entry holds**, with the level under the name that
it has for the log. -/
theorem Target.get?_record_entry {e : Entry} {logger streamId : Text}
    (hStream : e.streamId? = some streamId) {kept : Entries}
    (h : (e.target logger streamId).record e.method (.text e.event) e.fields = .ok kept) :
    (∀ name, innerNames.contains name = false →
      (∀ mark ∈ ["log_level".toList, eventName, "logger".toList, levelName], mark ≠ name) →
        Table.get? kept (.text name) = Table.get? e.entries (.text name))
    ∧ Table.get? kept (.text eventName) = Table.get? e.entries (.text eventName)
    ∧ Table.get? kept (.text levelName) = Table.get? e.entries (.text "log_level".toList) := by
  have hSaid : e.said = (e.target logger streamId).said e.method e.fields := by
    rw [Entry.said, hStream]
    rfl
  have hMerge : Table.merge ((e.target logger streamId).said e.method e.fields)
      ((e.target logger streamId).stamp e.method (.text e.event))
        = Table.put (.text levelName) (.text e.method.level)
          (Table.put (.text "logger".toList) (.text logger)
            (Table.put (.text eventName) (.text e.event) e.said)) := by
    rw [hSaid]
    rfl
  refine ⟨?_, ?_, ?_⟩
  · intro name hFree hMark
    obtain ⟨hLevel, hMarks⟩ := List.forall_mem_cons.mp hMark
    have hEvent : "event".toList ≠ name := hMarks eventName List.mem_cons_self
    rw [get?_record h hFree hMarks, ← hSaid, Entry.entries, Table.get?_put,
      Key.beq_text_of_ne hLevel, if_neg Bool.false_ne_true, Table.get?_put,
      Key.beq_text_of_ne hEvent, if_neg Bool.false_ne_true]
  · rw [get?_record_eq h (by decide), hMerge, Table.get?_put, if_neg (by decide), Table.get?_put,
      if_neg (by decide), Table.get?_put, if_pos (by decide), Entry.entries, Table.get?_put,
      if_neg (by decide), Table.get?_put, if_pos (by decide)]
  · rw [get?_record_eq h (by decide), hMerge, Table.get?_put, if_pos (by decide), Entry.entries,
      Table.get?_put, if_pos (by decide)]

-- ---------------------------------------------------------------------------
-- A run of calls
-- ---------------------------------------------------------------------------

/-- Nothing is held back but what is below the level of the setup. -/
theorem Target.left_eq_none_iff {t : Target} {method : Method} (hAction : t.action = .record method)
    {setup : Setup} {event : Value} {next : Loggers} {left : Option Entries}
    (h : t.perform {} setup event = .ok (next, left)) :
    left = none ↔ method.rank < setup.least := by
  rw [perform, hAction] at h
  obtain ⟨_, -, h⟩ := bind_eq_ok_iff.mp h
  obtain ⟨left', hLeave, h⟩ := bind_eq_ok_iff.mp h
  cases h
  obtain ⟨_, -, hLeave⟩ := bind_eq_ok_iff.mp hLeave
  obtain ⟨kept, -, hThrough⟩ := bind_eq_ok_iff.mp hLeave
  have hNone := Loggers.letThrough_eq_none_iff {} setup t.logger method kept
  rw [Loggers.leastFor_of_levels_nil, hThrough] at hNone
  rw [← hNone, Except.ok.injEq]

theorem Target.perform_record {t : Target} {method : Method} (hAction : t.action = .record method)
    {loggers next : Loggers} {setup : Setup} {event : Value} {left : Option Entries}
    (h : t.perform loggers setup event = .ok (next, left)) : next = loggers := by
  rw [perform, hAction] at h
  obtain ⟨_, -, h⟩ := bind_eq_ok_iff.mp h
  obtain ⟨left, -, h⟩ := bind_eq_ok_iff.mp h
  cases h
  rfl

/-- **Calls of methods that log do not depend on each other**: each one finds the loggers as they
were before the first. -/
theorem records_of_logging {setup : Setup} {loggers : Loggers} {calls : List Call}
    (h : ∀ c ∈ calls, ∀ t, c.target = .ok t → ∃ method, t.action = .record method) :
    records setup loggers calls = calls.map fun c => (c.make loggers setup).map Prod.snd := by
  induction calls with
  | nil => rfl
  | cons c rest ih =>
    obtain ⟨hHere, hRest⟩ := List.forall_mem_cons.mp h
    rw [records, List.map_cons, ← ih hRest]
    rcases hMake : c.make loggers setup with fault | ⟨next, left⟩
    · rfl
    · have hSame : next = loggers := by
        rw [Call.make] at hMake
        obtain ⟨t, hTarget, hPerform⟩ := bind_eq_ok_iff.mp hMake
        obtain ⟨method, hAction⟩ := hHere t hTarget
        exact Target.perform_record hAction hPerform
      rw [hSame]
      rfl

end EventLoom.Log
