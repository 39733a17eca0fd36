import EventLoom.Proofs.SessionHistory

/-!
# What the log holds of events that were not sent

An event that is published is rendered and sent by a task of its own. The task needs the mapper in
use to begin with, and without one it fails before there is anything to be rendered. That is not
logged. Once there is a mapper the task fails because the event cannot be rendered or because
sending fails, with whatever fault, and either way one entry is logged. It has the name of the
mapper's stream, whatever the fault says of itself, and if the fault is a problem, the problem's
code and message.

Nothing is logged of events that are sent, nor of those for which no task is run.

## Results

* `reportsFailure_failure` — the entry names the stream and says what the problem was.
* `taskOutcome_task` — what one task comes to, and what is logged.
* `publish_without_task` — an event without a task fails, and nothing is logged.
* `run_logs_failures` — what is logged of every event that is published in a run of a session.
-/

namespace EventLoom

namespace Log

/-- A method adds no field but one. -/
theorem get?_withMethodFields {method : Method} {fields : Entries} {key : Key}
    (hKey : (Key.text "exc_info".toList == key) = false) :
    Table.get? (withMethodFields method fields) key = Table.get? fields key := by
  simp only [withMethodFields]
  split
  · rw [Table.get?_put, hKey, if_neg nofun]
  · rfl

end Log

namespace Session

-- ---------------------------------------------------------------------------
-- The entry
-- ---------------------------------------------------------------------------

/-- The entry says for which stream an event was not sent, and if that was a problem, which one. -/
structure ReportsFailure (entry : Log.Entry) (streamId : Text) (fault : Fault) : Prop where
  event_eq : Table.get? entry.entries (.text "event".toList)
    = some (.text "event_publish_failed".toList)
  level_eq : Table.get? entry.entries (.text "log_level".toList) = some (.text "error".toList)
  stream_eq : Table.get? entry.entries Log.streamField = some (.text streamId)
  problem_eq : ∀ problem, fault.problem? = some problem →
    Table.get? entry.entries (.text "reason".toList) = some problem.code
    ∧ Table.get? entry.entries (.text "error".toList) = some problem.message

/-- Beside its event and its level an entry holds the fields of the problem, and the name of the
stream. -/
theorem get?_entries_failure {streamId : Text} {fault : Fault} {key : Key}
    (hKey : ∀ own ∈ ["log_level", "event", "exc_info"], (Key.text own.toList == key) = false) :
    Table.get? (failure streamId fault).entries key =
      if Log.streamField == key then some (.text streamId)
      else Table.get? ((fault.problem?.map Problem.logFields).getD []) key := by
  rw [failure, Log.Entry.entries, Table.get?_put, hKey "log_level" (by simp), if_neg nofun,
    Table.get?_put, hKey "event" (by simp), if_neg nofun]
  show Table.get? (Log.withMethodFields _ _) key = _
  rw [Log.get?_withMethodFields (hKey "exc_info" (by simp)), Table.get?_put]

/-- **The entry names the stream**, also if the problem has a stream of its own to name. -/
theorem reportsFailure_failure (streamId : Text) (fault : Fault) :
    ReportsFailure (failure streamId fault) streamId fault := by
  constructor
  case event_eq =>
    rw [Log.Entry.entries, Table.get?_put, if_neg (by decide), Table.get?_put, if_pos (by decide)]
    rfl
  case level_eq =>
    rw [Log.Entry.entries, Table.get?_put, if_pos (by decide)]
    rfl
  case stream_eq => rw [get?_entries_failure (by decide), if_pos (by decide)]
  case problem_eq =>
    intro problem hProblem
    constructor
    · rw [get?_entries_failure (by decide), if_neg (by decide), hProblem]
      show Table.get? problem.logFields _ = _
      rw [Problem.logFields, Table.get?_put, if_neg (by decide), Table.get?_put,
        if_pos (by decide)]
    · rw [get?_entries_failure (by decide), if_neg (by decide), hProblem]
      exact problem.get?_logFields_error

-- ---------------------------------------------------------------------------
-- One event
-- ---------------------------------------------------------------------------

variable {s : Session}

/-- Why an event that there is a mapper for is not sent. -/
inductive Undelivered (m : Mapper) (values : Value) (broken : Option Fault) : Fault → Prop where
  | unrendered {fault : Fault} (hRender : m.render values = .error fault) :
      Undelivered m values broken fault
  | unsent {t : Text} {fault : Fault} (hRender : m.render values = .ok t)
      (hBroken : broken = some fault) : Undelivered m values broken fault

theorem deliver_eq_error_iff {m : Mapper} {values : Value} {fault : Fault} :
    s.deliver m values = .error fault ↔ Undelivered m values s.broken fault := by
  rw [deliver]
  constructor
  · intro h
    split at h
    · rename_i hRender
      cases h
      exact .unrendered hRender
    · rename_i hRender hBroken
      cases h
      exact .unsent hRender hBroken
    · cases h
  · rintro (hRender | ⟨hRender, hBroken⟩)
    · rw [hRender]
    · rw [hRender, hBroken]

/-- What the task for an event answers, and what it leaves in the log. -/
inductive TaskOutcome (current : Option Mapper) (values : Value) (broken : Option Fault) :
    Except Fault Answer → List Log.Entry → Prop where
  /-- Nothing is logged of an event that is sent. -/
  | sent {m : Mapper} {t : Text} (hCurrent : current = some m) (hRender : m.render values = .ok t)
      (hBroken : broken = none) : TaskOutcome current values broken (.ok (.text t)) []
  /-- Without a mapper the task fails, and that is not logged either. -/
  | unmapped (hCurrent : current = none) :
      TaskOutcome current values broken (.error .noActiveMapping) []
  /-- Every other failure is logged once. -/
  | failed {m : Mapper} {fault : Fault} {entry : Log.Entry} (hCurrent : current = some m)
      (hFault : Undelivered m values broken fault)
      (hEntry : ReportsFailure entry m.streamId fault) :
      TaskOutcome current values broken (.error fault) [entry]

/-- **What one task comes to.** -/
theorem taskOutcome_task (values : Value) :
    TaskOutcome s.current values s.broken ((s.task values).1.map .text) (s.task values).2 := by
  rw [task]
  rcases s.current with _ | m
  · exact .unmapped rfl
  · rcases hDeliver : s.deliver m values with fault | t
    · simp only [hDeliver]
      exact .failed rfl (deliver_eq_error_iff.mp hDeliver) (reportsFailure_failure _ _)
    · obtain ⟨hRender, hBroken⟩ := deliver_eq_ok_iff.mp hDeliver
      simp only [hDeliver]
      exact .sent rfl hRender hBroken

/-- No task is run for an event without items, nor for any event behind the closing of the
publisher. It fails then, and nothing is logged. -/
theorem publish_without_task (hPermit : s.pool.HasPermit) {event : Value}
    (h : (∀ items, event.items ≠ .ok items) ∨ s.pool.closed = true) :
    ∃ fault, (s.publish event).2 = (.error fault, []) := by
  rw [publish]
  rcases hItems : event.items with fault | items
  · exact ⟨fault, rfl⟩
  · rcases h with hNone | hClosed
    · exact absurd hItems (hNone items)
    · have hSubmit : s.pool.submit = (s.pool, .error .shutDown) :=
        (Bulkhead.submit_eq_error_iff hPermit).mpr ⟨hClosed, rfl⟩
      rw [hSubmit]
      exact ⟨_, rfl⟩

/-- An open publisher runs a task for every event that has items. -/
theorem taskOutcome_publish (hPermit : s.pool.HasPermit) {event : Value} {items : List Value}
    (hItems : event.items = .ok items) (hOpen : s.pool.closed = false) :
    TaskOutcome s.current (.tuple items) s.broken ((s.publish event).2.1.map .text)
      (s.publish event).2.2 := by
  rw [publish, hItems]
  obtain ⟨hClosed, -⟩ | ⟨-, taken, -, hSubmit⟩ := Bulkhead.submit_cases_of_hasPermit hPermit
  · rw [hOpen] at hClosed
    cases hClosed
  · rw [hSubmit]
    exact taskOutcome_task (.tuple items)

-- ---------------------------------------------------------------------------
-- Runs
-- ---------------------------------------------------------------------------

/-- Every step of a run is made by a session that agrees with the past and the steps ahead of it. -/
theorem exists_agrees_run {origin : Session} {past : List Success} (h : s.Agrees origin past)
    {steps : List (Except Fault Step)} {i : Nat} {step? : Except Fault Step} {result : Result}
    (hStep : steps[i]? = some step?) (hResult : (s.run steps)[i]? = some result) :
    ∃ here : Session, here.Agrees origin (s.history (steps.take i) ++ past)
      ∧ here.attempt step? = result := by
  induction steps generalizing s past i with
  | nil => cases hStep
  | cons head rest ih =>
    cases i with
    | zero =>
      cases hStep
      cases hResult
      exact ⟨s, h, rfl⟩
    | succ i =>
      rw [List.take_succ_cons, history_cons, List.append_assoc]
      exact ih (agrees_attempt h head) hStep hResult

/-- **What is logged of an event that is published**, in any run of a session that has been started.
If the event has items and the publisher is still open, a task is run with the mapper that the steps
ahead have left in use. Its failure is logged once, with the name of the mapper's stream, unless
there is no such mapper. Nothing else is logged. -/
theorem run_logs_failures {resources : Option Entries} {workers : Value}
    (hStart : start resources workers = .ok s) {steps : List (Except Fault Step)} {i : Nat}
    {event : Value} {result : Result} (hStep : steps[i]? = some (.ok (.publish event)))
    (hResult : (s.run steps)[i]? = some result) :
    (∀ items, event.items = .ok items → closedIn (s.history (steps.take i)) = false →
      TaskOutcome (mapperIn (s.history (steps.take i))) (.tuple items)
        (brokenIn (s.history (steps.take i))) result.answer result.log)
    ∧ ((∀ items, event.items ≠ .ok items) ∨ closedIn (s.history (steps.take i)) = true →
      (∃ fault, result.answer = .error fault) ∧ result.log = []) := by
  obtain ⟨hOrigin, hPermit⟩ := agrees_start hStart
  obtain ⟨here, hHere, rfl⟩ := exists_agrees_run hOrigin hStep hResult
  rw [List.append_nil] at hHere
  have hHerePermit := hHere.hasPermit hPermit
  have hClosed : here.pool.closed = closedIn (s.history (steps.take i)) := by rw [hHere.pool_eq]
  rw [← hClosed, ← hHere.current_eq, ← hHere.broken_eq]
  constructor
  · intro items hItems hOpen
    exact taskOutcome_publish hHerePermit hItems hOpen
  · intro hNone
    obtain ⟨fault, hPublish⟩ := publish_without_task hHerePermit hNone
    exact ⟨⟨fault, answer_publish_eq_error_iff.mpr (congrArg Prod.fst hPublish)⟩,
      congrArg Prod.snd hPublish⟩

/-- The mapping whose template is the stream's own. -/
def ownMapping : OutputMapping := ⟨.bool false, none, .text OutputMapping.jsonType⟩

/-- Why nothing can be sent. -/
def outage : Fault := .transportDown "down".toList

/-- A mapper is put into place while nothing can be sent, and then an event is published. -/
def downSteps : List (Except Fault Step) :=
  [.ok (.breakDown (some outage)), .ok (.activate ownMapping Stream.braced .fail),
    .ok (.publish (.list (List.replicate 5 .null)))]

theorem run_logs_failures_down :
    ∃ s result entry, start none (.int 2) = .ok s ∧ (s.run downSteps)[2]? = some result
      ∧ result.answer = .error outage ∧ result.log = [entry]
      ∧ Table.get? entry.entries Log.streamField = some (.text Stream.braced.id) := by
  obtain ⟨s, hStart⟩ := exists_start none (show (1 : Int) ≤ 2 by decide)
  obtain ⟨result, hResult⟩ : ∃ result, (s.run downSteps)[2]? = some result := ⟨_, rfl⟩
  have hValid : Stream.braced.Valid :=
    valid_of_accept (d := Stream.braced.declaration) (s := Stream.braced) rfl
  obtain ⟨m, hActive⟩ : ∃ m, (activate ownMapping Stream.braced s.reader .fail).result = .ok m :=
    ⟨_, activate_default hValid rfl⟩
  obtain ⟨hBound, -⟩ := bound_of_activate hValid hActive
  obtain ⟨t, hRender⟩ := (Mapper.render_sequence_eq_ok_iff hBound (.inr rfl)
    (exists_text_of_null 5)).mpr (.inr ⟨by simp, hBound.covers (by decide)⟩)
  have hAnswer : ((s.attempt (.ok (.breakDown (some outage)))).session.attempt
      (.ok (.activate ownMapping Stream.braced .fail))).answer = .ok (.mapper (some m)) := by
    show (step { s with broken := some outage } _).answer = _
    have hSame : activate ownMapping Stream.braced { s with broken := some outage }.reader .fail
        = activate ownMapping Stream.braced s.reader .fail := rfl
    simp only [step, hSame, hActive]
  have hBefore : s.history (downSteps.take 2)
      = [⟨.activate ownMapping Stream.braced .fail, .mapper (some m)⟩,
        ⟨.breakDown (some outage), .done⟩] := by
    have hSecond : s.history (downSteps.take 2) = _ := history_take_succ rfl rfl
    rw [hSecond, hAnswer]
    rfl
  have hOutcome := (run_logs_failures hStart rfl hResult).1 (List.replicate 5 .null) rfl
    (by rw [hBefore]; rfl)
  rw [hBefore] at hOutcome
  refine ⟨s, result, ?_⟩
  generalize result.answer = answer at hOutcome ⊢
  generalize result.log = log at hOutcome ⊢
  cases hOutcome with
  | sent hCurrent _ hBroken => cases hBroken
  | unmapped hCurrent => cases hCurrent
  | failed hCurrent hFault hEntry =>
    cases hCurrent
    rcases hFault with hRenderFault | ⟨_, hBroken⟩
    · rw [hRender] at hRenderFault
      cases hRenderFault
    · cases hBroken
      refine ⟨_, hStart, hResult, rfl, rfl, ?_⟩
      rw [hEntry.stream_eq, (activate_eq_ok hActive).1]

/-- An event without a mapper: its task is run and fails, and nothing is logged. -/
theorem unmapped_failure_not_logged :
    ∃ s result, start none (.int 1) = .ok s ∧ s.pool.closed = false
      ∧ (Value.list [.int 1]).items = .ok [.int 1]
      ∧ s.run [.ok (.publish (.list [.int 1]))] = [result]
      ∧ result.answer = .error .noActiveMapping ∧ result.log = [] :=
  ⟨_, _, rfl, rfl, rfl, rfl, rfl, rfl⟩

end Session

end EventLoom
