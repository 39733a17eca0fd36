import EventLoom.Proofs.Admission
import EventLoom.Proofs.RenderSafety
import EventLoom.Publishing.Session

/-!
# What a session shows of its past

The steps of a session that succeeded, each with its answer, are all that the session shows later
on. The mapper in use is the one that the last activation or swap put into its place, and what has
been sent are the texts that were answered to the events published since the last time that the list
was cleared. Steps that failed are not part of this past: such a step leaves the session as it was,
the permit of the task that it may have run included.

The past is also all that decides about an event. It is published if it can be rendered with that
mapper, the publisher is still open and its transport can send; there is always a worker for it.
That holds of the events behind a closing as well, each of which takes a permit before it turns out
that no task can start.

## Results

* `session_of_error` — a step that fails leaves the session as it was.
* `publish_eq_ok_iff` — which events are published, and as what.
* `agrees_attempt` — one step keeps a session in agreement with its past.
* `run_follows_history` — so every run of a session follows its past, step by step.
-/

namespace EventLoom

-- ---------------------------------------------------------------------------
-- Refusals
-- ---------------------------------------------------------------------------

/-- There was no worker for a task. -/
def Fault.IsRefusal : Fault → Prop
  | .bulkheadFull .. => True
  | _ => False

theorem Value.not_isRefusal_of_isBelow {v : Value} {bound : Int} {fault : Fault}
    (h : v.isBelow bound = .error fault) : ¬ fault.IsRefusal := by
  unfold isBelow at h
  repeat' split at h
  all_goals cases h
  all_goals exact id

theorem Value.itemOf_eq_error {items : List Value} {place : Int} {fault : Fault}
    (h : itemOf items place = .error fault) : fault = .outOfRange := by
  simp only [itemOf] at h
  -- it does not matter from where the position is counted
  generalize (if place < 0 then (items.length : Int) + place else place) = start at h
  split at h
  · cases h
    rfl
  · split at h
    · cases h
    · cases h
      rfl

theorem Value.not_isRefusal_of_item {v position : Value} {fault : Fault}
    (h : v.item position = .error fault) : ¬ fault.IsRefusal := by
  unfold item at h
  split at h
  · rcases bind_eq_error_iff.mp h with hKey | ⟨key, -, h⟩
    · unfold toKey at hKey
      split at hKey <;> cases hKey
      exact id
    · unfold ofEntry at h
      split at h <;> cases h
      exact id
  · rw [itemOf_eq_error h]
    exact id
  · cases h
    exact id

theorem Value.not_isRefusal_of_items {v : Value} {fault : Fault} (h : v.items = .error fault) :
    ¬ fault.IsRefusal := by
  unfold items at h
  split at h
  · cases h
  · cases h
  · cases h
    exact id

theorem not_isRefusal_of_fillPlaceholder {values : Value} {length : Nat} {positions : Entries}
    {policy : EmptyPolicy} {key : Text} {fault : Fault}
    (h : fillPlaceholder values length positions policy key = .error fault) :
    ¬ fault.IsRefusal := by
  unfold fillPlaceholder at h
  split at h
  · split at h <;> cases h
    exact id
  · split at h
    · cases h
      exact id
    · cases h
      exact id
    · rcases bind_eq_error_iff.mp h with hBelow | ⟨below, -, h⟩
      · exact Value.not_isRefusal_of_isBelow hBelow
      · split at h
        · rcases bind_eq_error_iff.mp h with hItem | ⟨v, -, hFormat⟩
          · exact Value.not_isRefusal_of_item hItem
          · rw [formatValue_eq_error hFormat]
            exact id
        · cases h
          rcases Value.telling_eq_or _ (.shortEvent length key _) with hTold | hTold
          · rw [hTold]
            exact id
          · rw [hTold]
            exact id

/-- Rendering asks no bulkhead for a worker. -/
theorem Mapper.not_isRefusal_of_render {m : Mapper} {values : Value} {fault : Fault}
    (h : m.render values = .error fault) : ¬ fault.IsRefusal := by
  rcases Template.render_eq_error h with ⟨-, rfl⟩ | ⟨length, -, key, -, hFill⟩
  · exact id
  · exact not_isRefusal_of_fillPlaceholder hFill

namespace Session

-- ---------------------------------------------------------------------------
-- Publishing
-- ---------------------------------------------------------------------------

variable {s : Session}

theorem deliver_eq_ok_iff {m : Mapper} {values : Value} {t : Text} :
    s.deliver m values = .ok t ↔ m.render values = .ok t ∧ s.broken = none := by
  rw [deliver]
  split
  · rename_i hRender
    simp [hRender]
  · rename_i hRender hBroken
    simp [hBroken]
  · rename_i hRender hBroken
    simp [hRender, hBroken]

theorem task_eq_ok_iff {values : Value} {t : Text} :
    (s.task values).1 = .ok t ↔
      ∃ m, s.current = some m ∧ m.render values = .ok t ∧ s.broken = none := by
  rw [task]
  split
  · rename_i hNone
    simp [hNone]
  · rename_i m hCurrent
    simp only [hCurrent, Option.some.injEq, exists_eq_left', ← deliver_eq_ok_iff]
    split
    · rename_i t' hDeliver
      simp [hDeliver]
    · rename_i fault hDeliver
      simp [hDeliver]

/-- Publishing adds the text that it answers to what has been sent, and changes nothing else: the
permit of its task has been given back. -/
theorem publish_session (event : Value) :
    (s.publish event).1 =
      { s with sent := s.sent ++ (s.publish event).2.1.toOption.toList } := by
  rw [publish]
  split
  · simp [Except.toOption]
  · split
    · rename_i hSubmit
      rw [Bulkhead.submit_of_error hSubmit]
      simp [Except.toOption]
    · rename_i hSubmit
      rw [Bulkhead.permits_giveBack_take? (Bulkhead.submit_of_ok hSubmit).2]

/-- **Which events are published**: those that have items and are rendered with the mapper in use,
while the publisher is open and can send. -/
theorem publish_eq_ok_iff (hPermit : s.pool.HasPermit) {event : Value} {t : Text} :
    (s.publish event).2.1 = .ok t ↔
      ∃ items m, event.items = .ok items ∧ s.pool.closed = false ∧ s.current = some m
        ∧ m.render (.tuple items) = .ok t ∧ s.broken = none := by
  rw [publish]
  rcases hItems : event.items with fault | items
  · simp
  · obtain ⟨hClosed, hSubmit⟩ | ⟨hOpen, taken, -, hSubmit⟩ :=
      Bulkhead.submit_cases_of_hasPermit hPermit
    · simp [hSubmit, hClosed]
    · simp [hSubmit, task_eq_ok_iff, hOpen]

theorem answer_publish_eq_ok_iff {event : Value} {answer : Answer} :
    (s.attempt (.ok (.publish event))).answer = .ok answer ↔
      ∃ t, answer = .text t ∧ (s.publish event).2.1 = .ok t := by
  show (s.publish event).2.1.map Answer.text = .ok answer ↔ _
  rcases hResult : (s.publish event).2.1 with fault | t
  · simp [Except.map]
  · simp [Except.map, eq_comm]

theorem answer_publish_eq_error_iff {event : Value} {fault : Fault} :
    (s.attempt (.ok (.publish event))).answer = .error fault ↔
      (s.publish event).2.1 = .error fault := by
  show (s.publish event).2.1.map Answer.text = .error fault ↔ _
  rcases hResult : (s.publish event).2.1 with fault' | t
  · simp [Except.map]
  · simp [Except.map]

/-- A task asks no bulkhead for a worker either; a fault that says so is one of sending. -/
theorem broken_of_task_refusal {values : Value} {fault : Fault}
    (h : (s.task values).1 = .error fault) (hRefusal : fault.IsRefusal) :
    s.broken = some fault := by
  rw [task] at h
  split at h
  · cases h
    cases hRefusal
  · split at h
    · cases h
    · rename_i hDeliver
      cases h
      rw [deliver] at hDeliver
      split at hDeliver
      · rename_i hRender
        cases hDeliver
        exact absurd hRefusal (Mapper.not_isRefusal_of_render hRender)
      · rename_i hBroken
        cases hDeliver
        exact hBroken
      · cases hDeliver

/-- With a permit no event is turned away for want of a worker. -/
theorem broken_of_publish_refusal (hPermit : s.pool.HasPermit) {event : Value} {fault : Fault}
    (h : (s.publish event).2.1 = .error fault) (hRefusal : fault.IsRefusal) :
    s.broken = some fault := by
  rw [publish] at h
  rcases hItems : event.items with fault' | items
  · rw [hItems] at h
    cases h
    exact absurd hRefusal (Value.not_isRefusal_of_items hItems)
  · obtain ⟨-, hSubmit⟩ | ⟨-, taken, -, hSubmit⟩ := Bulkhead.submit_cases_of_hasPermit hPermit
    · rw [hItems, hSubmit] at h
      cases h
      cases hRefusal
    · rw [hItems, hSubmit] at h
      exact broken_of_task_refusal h hRefusal

-- ---------------------------------------------------------------------------
-- Activating
-- ---------------------------------------------------------------------------

theorem answer_activate_eq_ok {mapping : OutputMapping} {stream : Stream} {policy : EmptyPolicy}
    {answer : Answer}
    (h : (s.attempt (.ok (.activate mapping stream policy))).answer = .ok answer) :
    ∃ m, answer = .mapper (some m) ∧ (activate mapping stream s.reader policy).result = .ok m := by
  simp only [attempt, step] at h
  split at h
  · rename_i m hActive
    cases h
    exact ⟨m, rfl, hActive⟩
  · cases h

-- ---------------------------------------------------------------------------
-- Failing steps
-- ---------------------------------------------------------------------------

/-- **A step that fails leaves the session as it was**: the mapper, the texts that have been sent,
the permits and everything else. -/
theorem session_of_error {step? : Except Fault Step} {fault : Fault}
    (h : (s.attempt step?).answer = .error fault) : (s.attempt step?).session = s := by
  rcases step? with _ | step
  · rfl
  · rw [attempt] at h ⊢
    -- a step either changes the session or fails
    cases step with
    | activate mapping stream emptyPolicy =>
      simp only [Session.step] at h ⊢
      split at h
      · cases h
      · rfl
    | swap name =>
      simp only [Session.step] at h ⊢
      split at h
      · cases h
      · rfl
    | publish event =>
      show (s.publish event).1 = s
      rw [publish_session, answer_publish_eq_error_iff.mp h]
      exact congrArg (fun sent => { s with sent := sent }) (List.append_nil s.sent)
    | putResource path content =>
      simp only [Session.step] at h ⊢
      split at h
      · rfl
      · rfl
      · cases h
    | render event => rfl
    | renderSaved name event => rfl
    | save name => cases h
    | breakDown fault => cases h
    | listSent => cases h
    | clearSent => cases h
    | close => cases h

-- ---------------------------------------------------------------------------
-- The past
-- ---------------------------------------------------------------------------

/-- A step that did not fail, with what it answered. -/
structure Success where
  step : Step
  answer : Answer

/-- The step, if it was made and did not fail. -/
def success? : Except Fault Step → Except Fault Answer → Option Success
  | .ok step, .ok answer => some ⟨step, answer⟩
  | _, _ => none

/-- The steps that do not fail when all of `steps` are made, the last one first. -/
def history (s : Session) (steps : List (Except Fault Step)) : List Success :=
  ((steps.zip (s.run steps)).filterMap fun made => success? made.1 made.2.answer).reverse

/-- What was last set aside under a name, if anything was. -/
def savedIn (name : Key) : List Success → Option (Option Mapper)
  | [] => none
  | ⟨.save other, .mapper m⟩ :: earlier => if other == name then some m else savedIn name earlier
  | _ :: earlier => savedIn name earlier

/-- The mapper of the last activation or swap: the one that the activation made, or the one that had
been set aside. -/
def mapperIn : List Success → Option Mapper
  | [] => none
  | ⟨.activate _ _ _, .mapper m⟩ :: _ => m
  | ⟨.swap name, _⟩ :: earlier => (savedIn name earlier).join
  | _ :: earlier => mapperIn earlier

/-- The texts answered to the events published since the last time that the list was cleared. -/
def sentIn : List Success → List Text
  | [] => []
  | ⟨.publish _, .text t⟩ :: earlier => sentIn earlier ++ [t]
  | ⟨.clearSent, _⟩ :: _ => []
  | _ :: earlier => sentIn earlier

/-- What sending fails with, if it was last said to fail. -/
def brokenIn : List Success → Option Fault
  | [] => none
  | ⟨.breakDown fault, _⟩ :: _ => fault
  | _ :: earlier => brokenIn earlier

/-- Whether the publisher has been closed. -/
def closedIn : List Success → Bool
  | [] => false
  | ⟨.close, _⟩ :: _ => true
  | _ :: earlier => closedIn earlier

/-- The resources, with what has been put into them. -/
def resourcesIn (resources : Option Entries) : List Success → Option Entries
  | [] => resources
  | ⟨.putResource path content, _⟩ :: earlier =>
    match path.toKey with
    | .ok key => (resourcesIn resources earlier).map (Table.put key content)
    | .error _ => resourcesIn resources earlier
  | _ :: earlier => resourcesIn resources earlier

/-- The step puts a mapper into its place. -/
def Step.installs : Step → Bool
  | .activate .. | .swap _ => true
  | _ => false

/-- A session that began as `origin` is as its past says. -/
structure Agrees (s origin : Session) (past : List Success) : Prop where
  resources_eq : s.resources = resourcesIn origin.resources past
  current_eq : s.current = mapperIn past
  saved_eq : ∀ name, Table.get? s.saved name = savedIn name past
  sent_eq : s.sent = sentIn past
  broken_eq : s.broken = brokenIn past
  pool_eq : s.pool = { origin.pool with closed := closedIn past }

theorem mapperIn_of_not_installs {made : Success} {past : List Success}
    (h : made.step.installs = false) : mapperIn (made :: past) = mapperIn past := by
  obtain ⟨step, answer⟩ := made
  cases step with
  | activate mapping stream emptyPolicy => cases h
  | swap name => cases h
  | _ => rfl

variable {origin : Session} {past : List Success}

theorem Agrees.hasPermit (h : s.Agrees origin past) (hPermit : origin.pool.HasPermit) :
    s.pool.HasPermit := by
  rw [h.pool_eq]
  exact hPermit

/-- A step that does not fail keeps a session in agreement with its past, of which it is now a
part. -/
theorem agrees_step (h : s.Agrees origin past) {step : Step} {answer : Answer}
    (hAnswer : (s.step step).answer = .ok answer) :
    (s.step step).session.Agrees origin (⟨step, answer⟩ :: past) := by
  obtain ⟨hResources, hCurrent, hSaved, hSent, hBroken, hPool⟩ := h
  -- each part of the past is about one or two kinds of steps, and the others pass it on
  cases step with
  | activate mapping stream emptyPolicy =>
    simp only [Session.step] at hAnswer ⊢
    split at hAnswer
    · cases hAnswer
      exact ⟨hResources, rfl, hSaved, hSent, hBroken, hPool⟩
    · cases hAnswer
  | save name =>
    cases hAnswer
    refine ⟨hResources, hCurrent, ?_, hSent, hBroken, hPool⟩
    intro other
    show Table.get? (Table.put name s.current s.saved) other = _
    rw [Table.get?_put, hSaved, savedIn]
  | swap name =>
    simp only [Session.step] at hAnswer ⊢
    split at hAnswer
    · rename_i m hLookUp
      cases hAnswer
      refine ⟨hResources, ?_, hSaved, hSent, hBroken, hPool⟩
      rw [lookUpSaved, hSaved] at hLookUp
      show m = (savedIn name past).join
      split at hLookUp
      · rename_i m' hFound
        cases hLookUp
        rw [hFound]
        rfl
      · cases hLookUp
    · cases hAnswer
  | publish event =>
    obtain ⟨t, rfl, hText⟩ := answer_publish_eq_ok_iff.mp hAnswer
    show (s.publish event).1.Agrees origin _
    rw [publish_session, hText]
    refine ⟨hResources, hCurrent, hSaved, ?_, hBroken, hPool⟩
    exact congrArg (· ++ [t]) hSent
  | putResource path content =>
    simp only [Session.step] at hAnswer ⊢
    split at hAnswer
    · cases hAnswer
    · cases hAnswer
    · rename_i resources key hThere hKey
      refine ⟨?_, hCurrent, hSaved, hSent, hBroken, hPool⟩
      rw [resourcesIn, hKey, ← hResources, hThere]
      rfl
  | breakDown fault => exact ⟨hResources, hCurrent, hSaved, hSent, rfl, hPool⟩
  | clearSent => exact ⟨hResources, hCurrent, hSaved, rfl, hBroken, hPool⟩
  | close =>
    refine ⟨hResources, hCurrent, hSaved, hSent, hBroken, ?_⟩
    show s.pool.shutdown = _
    rw [Bulkhead.shutdown, hPool]
    rfl
  | render event => exact ⟨hResources, hCurrent, hSaved, hSent, hBroken, hPool⟩
  | renderSaved name event => exact ⟨hResources, hCurrent, hSaved, hSent, hBroken, hPool⟩
  | listSent => exact ⟨hResources, hCurrent, hSaved, hSent, hBroken, hPool⟩

/-- **One step keeps a session in agreement with its past**, whether it fails or not. -/
theorem agrees_attempt (h : s.Agrees origin past) (step? : Except Fault Step) :
    (s.attempt step?).session.Agrees origin
      ((success? step? (s.attempt step?).answer).toList ++ past) := by
  rcases hAnswer : (s.attempt step?).answer with fault | answer
  · have hNone : success? step? (.error fault) = none := by cases step? <;> rfl
    rw [session_of_error hAnswer, hNone]
    exact h
  · rcases step? with fault | step
    · cases hAnswer
    · exact agrees_step h hAnswer

-- ---------------------------------------------------------------------------
-- One step
-- ---------------------------------------------------------------------------

/-- What a step of a session that began as `origin` comes to. `before` are the steps that had not
failed ahead of it, and `behind` are they together with the step itself, if it does not fail
either. -/
structure Follows (result : Result) (origin : Session) (before behind : List Success)
    (step? : Except Fault Step) : Prop where
  current_eq : result.session.current = mapperIn behind
  /-- Nothing but an activation or a swap that succeeds changes the mapper. -/
  current_stays : (∀ made ∈ success? step? result.answer, made.step.installs = false) →
    result.session.current = mapperIn before
  /-- An activation answers the mapper that comes of the resources as they are at that time. -/
  activate_answer : ∀ mapping stream policy answer,
    step? = .ok (.activate mapping stream policy) → result.answer = .ok answer →
      ∃ m, answer = .mapper (some m) ∧
        (activate mapping stream
          ((resourcesIn origin.resources before).map Registry.readMemory) policy).result = .ok m
  save_answer : ∀ name, step? = .ok (.save name) →
    result.answer = .ok (.mapper (mapperIn before))
  sent_eq : result.session.sent = sentIn behind
  publish_ok_iff : ∀ event, step? = .ok (.publish event) → ∀ answer,
    result.answer = .ok answer ↔ ∃ t, answer = .text t ∧ ∃ items m, event.items = .ok items
      ∧ closedIn before = false ∧ mapperIn before = some m ∧ m.render (.tuple items) = .ok t
      ∧ brokenIn before = none
  publish_error : ∀ event fault, step? = .ok (.publish event) → result.answer = .error fault →
    result.session.sent = sentIn before
  /-- No event is turned away for want of a worker: a fault that says so is what sending fails
  with. -/
  publish_admitted : ∀ event name workers, step? = .ok (.publish event) →
    result.answer = .error (.bulkheadFull name workers) →
      brokenIn before = some (.bulkheadFull name workers)
  /-- All permits are back. -/
  pool_eq : result.session.pool = { origin.pool with closed := closedIn behind }
  hasPermit : result.session.pool.HasPermit

/-- One step follows the past that the session agrees with. -/
theorem follows_attempt (h : s.Agrees origin past) (hPermit : origin.pool.HasPermit)
    (step? : Except Fault Step) :
    Follows (s.attempt step?) origin past
      ((success? step? (s.attempt step?).answer).toList ++ past) step? := by
  have hBehind := agrees_attempt h step?
  have hHere := h.hasPermit hPermit
  constructor
  case current_eq => exact hBehind.current_eq
  case current_stays =>
    intro hKind
    rw [hBehind.current_eq]
    rcases hMade : success? step? (s.attempt step?).answer with _ | made
    · rfl
    · exact mapperIn_of_not_installs (hKind made hMade)
  case activate_answer =>
    rintro mapping stream policy answer rfl hAnswer
    rw [← h.resources_eq]
    exact answer_activate_eq_ok hAnswer
  case save_answer =>
    rintro name rfl
    rw [← h.current_eq]
    rfl
  case sent_eq => exact hBehind.sent_eq
  case publish_ok_iff =>
    rintro event rfl answer
    have hClosed : s.pool.closed = closedIn past := by rw [h.pool_eq]
    rw [answer_publish_eq_ok_iff, ← hClosed, ← h.current_eq, ← h.broken_eq]
    simp only [publish_eq_ok_iff hHere]
  case publish_error =>
    intro event fault _ hFault
    rw [session_of_error hFault, h.sent_eq]
  case publish_admitted =>
    rintro event name workers rfl hFault
    rw [← h.broken_eq]
    exact broken_of_publish_refusal hHere (answer_publish_eq_error_iff.mp hFault) trivial
  case pool_eq => exact hBehind.pool_eq
  case hasPermit => exact hBehind.hasPermit hPermit

-- ---------------------------------------------------------------------------
-- Runs
-- ---------------------------------------------------------------------------

theorem length_run (steps : List (Except Fault Step)) : (s.run steps).length = steps.length := by
  induction steps generalizing s with
  | nil => rfl
  | cons step? rest ih => exact congrArg Nat.succ ih

theorem history_cons (step? : Except Fault Step) (rest : List (Except Fault Step)) :
    s.history (step? :: rest) = (s.attempt step?).session.history rest
      ++ (success? step? (s.attempt step?).answer).toList := by
  rcases hMade : success? step? (s.attempt step?).answer with _ | made
  · simp [history, run, hMade]
  · simp [history, run, hMade]

/-- A step adds to the past if it does not fail. -/
theorem history_take_succ {steps : List (Except Fault Step)} {i : Nat} {step? : Except Fault Step}
    {result : Result} (hStep : steps[i]? = some step?) (hResult : (s.run steps)[i]? = some result) :
    s.history (steps.take (i + 1)) =
      (success? step? result.answer).toList ++ s.history (steps.take i) := by
  induction steps generalizing s i with
  | nil => cases hStep
  | cons head rest ih =>
    cases i with
    | zero =>
      cases hStep
      cases hResult
      rw [List.take_succ_cons, List.take_zero, history_cons]
      exact (List.append_nil _).symm
    | succ i =>
      rw [List.take_succ_cons, List.take_succ_cons, history_cons, history_cons,
        ih hStep hResult, List.append_assoc]

/-- Every step of a run follows the past of the session together with the steps ahead of it. -/
theorem follows_run (hPermit : origin.pool.HasPermit) {steps : List (Except Fault Step)}
    (h : s.Agrees origin past) {i : Nat} {step? : Except Fault Step} {result : Result}
    (hStep : steps[i]? = some step?) (hResult : (s.run steps)[i]? = some result) :
    Follows result origin (s.history (steps.take i) ++ past)
      (s.history (steps.take (i + 1)) ++ past) step? := by
  induction steps generalizing s past i with
  | nil => cases hStep
  | cons head rest ih =>
    cases i with
    | zero =>
      cases hStep
      cases hResult
      rw [List.take_succ_cons, List.take_zero, history_cons]
      exact follows_attempt h hPermit step?
    | succ i =>
      rw [List.take_succ_cons, List.take_succ_cons, history_cons, history_cons, List.append_assoc,
        List.append_assoc]
      exact ih (agrees_attempt h head) hStep hResult

/-- A session that has been started agrees with an empty past. -/
theorem agrees_start {resources : Option Entries} {workers : Value}
    (h : start resources workers = .ok s) : s.Agrees s [] ∧ s.pool.HasPermit := by
  obtain ⟨_, -, h⟩ := bind_eq_ok_iff.mp h
  obtain ⟨pool, hPool, h⟩ := bind_eq_ok_iff.mp h
  cases h
  have hOpen : pool.closed = false := by
    obtain ⟨_, -, hMade⟩ := bind_eq_ok_iff.mp hPool
    cases hMade
    rfl
  refine ⟨⟨rfl, rfl, fun _ => rfl, rfl, rfl, ?_⟩, Bulkhead.hasPermit_ofWorkers hPool⟩
  rw [closedIn, ← hOpen]

/-- A publisher can have any number of workers from one on. -/
theorem exists_start (resources : Option Entries) {count : Int} (hCount : 1 ≤ count) :
    ∃ s, start resources (.int count) = .ok s := by
  have hBelow : Value.isBelow (.int count) 1 = .ok false := by
    rw [Value.isBelow, decide_eq_false (by omega)]
  have hPermits : Bulkhead.permitsOf (.int count) = .ok (some count.toNat) :=
    bind_eq_ok_iff.mpr ⟨false, hBelow, rfl⟩
  have hPool : Bulkhead.ofWorkers poolName (.int count) .null = .ok _ :=
    bind_eq_ok_iff.mpr ⟨_, hPermits, rfl⟩
  have hWorkers : ({ workers := .int count } : PublisherSettings).checkWorkers = .ok () :=
    bind_eq_ok_iff.mpr ⟨false, hBelow, rfl⟩
  have hCheck : ({ workers := .int count } : PublisherSettings).check = .ok () :=
    bind_eq_ok_iff.mpr ⟨(), hWorkers, rfl⟩
  exact ⟨_, bind_eq_ok_iff.mpr ⟨(), hCheck, bind_eq_ok_iff.mpr ⟨_, hPool, rfl⟩⟩⟩

/-- **A session follows its past.** Any number of workers from one on starts a session. In a session
that has been started, each step of any run finds and leaves behind what the steps ahead of it that
did not fail have made of it: the mapper of the last activation or swap, the texts answered to the
events published since the list was cleared, and all permits. These steps decide whether an event is
published, and as what. -/
theorem run_follows_history (resources : Option Entries) :
    (∀ count : Int, 1 ≤ count → ∃ s, start resources (.int count) = .ok s)
    ∧ ∀ (workers : Value) (s : Session), start resources workers = .ok s →
      ∀ steps : List (Except Fault Step), (s.run steps).length = steps.length
        ∧ ∀ (i : Nat) (step? : Except Fault Step) (result : Result), steps[i]? = some step? →
          (s.run steps)[i]? = some result →
            Follows result s (s.history (steps.take i)) (s.history (steps.take (i + 1)))
              step? := by
  refine ⟨fun count hCount => exists_start resources hCount, ?_⟩
  intro workers s hStart steps
  obtain ⟨hAgrees, hPermit⟩ := agrees_start hStart
  refine ⟨length_run steps, ?_⟩
  intro i step? result hStep hResult
  have hFollows := follows_run hPermit hAgrees hStep hResult
  rw [List.append_nil, List.append_nil] at hFollows
  exact hFollows

/-- An activation, and an event that is published after it. -/
def bracedSteps : List (Except Fault Step) :=
  [.ok (.activate ⟨.bool false, none, .text OutputMapping.jsonType⟩ Stream.braced .fail),
    .ok (.publish (.list (List.replicate 5 .null)))]

theorem run_follows_history_braced :
    ∃ s t, start none (.int 2) = .ok s ∧ (s.run bracedSteps).length = 2
      ∧ ∀ result, (s.run bracedSteps)[1]? = some result →
        result.answer = .ok (.text t) ∧ result.session.sent = [t] := by
  obtain ⟨hStart, hRun⟩ := run_follows_history none
  obtain ⟨s, hSession⟩ := hStart 2 (by decide)
  obtain ⟨hLength, hSteps⟩ := hRun (.int 2) s hSession bracedSteps
  have hValid : Stream.braced.Valid :=
    valid_of_accept (d := Stream.braced.declaration) (s := Stream.braced) rfl
  obtain ⟨m, hActive⟩ : ∃ m, (activate ⟨.bool false, none, .text OutputMapping.jsonType⟩
      Stream.braced s.reader .fail).result = .ok m := ⟨_, activate_default hValid rfl⟩
  obtain ⟨hBound, -⟩ := bound_of_activate hValid hActive
  obtain ⟨t, hRender⟩ := (Mapper.render_sequence_eq_ok_iff hBound (.inr rfl)
    (exists_text_of_null 5)).mpr (.inr ⟨by simp, hBound.covers (by decide)⟩)
  refine ⟨s, t, hSession, hLength, ?_⟩
  intro result hResult
  have hAnswer₀ : (s.step (.activate ⟨.bool false, none, .text OutputMapping.jsonType⟩
      Stream.braced .fail)).answer = .ok (.mapper (some m)) := by
    simp only [step, hActive]
  have hBefore : s.history (bracedSteps.take 1) = [⟨.activate ⟨.bool false, none,
      .text OutputMapping.jsonType⟩ Stream.braced .fail, .mapper (some m)⟩] := by
    have hFirst : s.history (bracedSteps.take 1) = _ := history_take_succ rfl rfl
    rw [hFirst, attempt, hAnswer₀]
    rfl
  have hFollows := hSteps 1 _ result rfl hResult
  have hAnswer : result.answer = .ok (.text t) := by
    refine (hFollows.publish_ok_iff _ rfl _).mpr ⟨t, rfl, _, m, rfl, ?_, ?_, hRender, ?_⟩
    all_goals
      rw [hBefore]
      rfl
  refine ⟨hAnswer, ?_⟩
  rw [hFollows.sent_eq, history_take_succ rfl hResult, hAnswer, hBefore]
  rfl

end Session

end EventLoom
