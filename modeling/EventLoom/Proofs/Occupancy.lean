import EventLoom.Proofs.Admission

/-!
# How full a bulkhead is

How many permits are left is decided by the past alone: they are as many as there are workers, less
one for every task that is held. What else has happened leaves no trace. A task that returns or
fails has given its permit back when the next step is made, and so has one that is turned away by a
bulkhead that has been shut down; one that finds no permit has none, and shutting down takes none
and gives none back.

The past is the list of the steps that did not fail, the last one first. From it one can tell how
many tasks are held (`heldIn`), whether the one that is meant by a label still is (`isHeldIn`), and
whether the bulkhead has been shut down (`closedIn`). A bulkhead keeps this in two counters and a
list of labels, which are changed at different places; that they agree with the past, and so with
each other, is kept by every step (`agrees_attempt`).

A task that finds no permit waits before it is turned away, for a time that runs out (`IsDeadline`).
It cannot begin to wait for longer than a clock can count to, and is told so instead; and without a
time, or with one that is no number, it waits for ever.

## Results

* `agrees_attempt` — one step keeps a bulkhead in agreement with its past.
* `agrees_behind` — so does every run of steps.
* `answer_cases` — the past decides what becomes of the next task.
* `behind_counts_held` — permits, and who gets one, behind every run.
-/

namespace EventLoom.Bulkhead

variable {α : Type}

-- ---------------------------------------------------------------------------
-- The past
-- ---------------------------------------------------------------------------

/-- What a step comes to that submits a task, if the task is admitted. -/
def Step.outcome? : Step α → Option (Except Fault (Answer α))
  | .run result => some (.ok (.returned result))
  | .fail reason => some (.error (.taskFailed reason))
  | .hold _ => some (.ok .holding)
  | .release _ | .shutdown => none

/-- The step, if it did not fail. -/
def success? : Except Fault (Step α) → Except Fault (Answer α) → Option (Step α)
  | .ok step, .ok _ => some step
  | _, _ => none

/-- The bulkhead behind some steps. -/
def behind (b : Bulkhead) (steps : List (Except Fault (Step α))) : Bulkhead :=
  steps.foldl (fun b step? => (b.attempt step?).1) b

/-- The steps that did not fail, the last one first. -/
def history (b : Bulkhead) : List (Except Fault (Step α)) → List (Step α)
  | [] => []
  | step? :: rest =>
    (b.attempt step?).1.history rest ++ (success? step? (b.attempt step?).2).toList

/-- Whether the task that was last held under a label has not been released. -/
def isHeldIn (label : Key) : List (Step α) → Bool
  | [] => false
  | .hold other :: earlier => if other == label then true else isHeldIn label earlier
  | .release other :: earlier => if other == label then false else isHeldIn label earlier
  | _ :: earlier => isHeldIn label earlier

/-- How many tasks are held and have not been released. Releasing a task again does nothing. -/
def heldIn : List (Step α) → Nat
  | [] => 0
  | .hold _ :: earlier => heldIn earlier + 1
  | .release label :: earlier =>
    if isHeldIn label earlier then heldIn earlier - 1 else heldIn earlier
  | _ :: earlier => heldIn earlier

/-- Whether the bulkhead has been shut down. -/
def closedIn : List (Step α) → Bool
  | [] => false
  | .shutdown :: _ => true
  | _ :: earlier => closedIn earlier

-- ---------------------------------------------------------------------------
-- Labels
-- ---------------------------------------------------------------------------

/-- Labels that are the same mean the same task. -/
theorem get?_of_beq {held : List (Key × Bool)} {label other : Key} (h : (label == other) = true) :
    Table.get? held other = Table.get? held label := by
  induction held with
  | nil => rfl
  | cons entry rest ih =>
    rw [Table.get?_cons, Table.get?_cons, BEq.congr_right h, ih]

theorem heldAs?_map_snd (b : Bulkhead) (label : Key) :
    (b.heldAs? label).map Prod.snd = Table.get? b.held label := by
  rw [heldAs?]
  induction b.held with
  | nil => rfl
  | cons entry rest ih =>
    rw [List.find?_cons, Table.get?_cons]
    cases hLabel : entry.1 == label with
    | true => rfl
    | false => exact ih

/-- Marking a held task as released makes one fewer of them. -/
theorem countP_put_false {held : List (Key × Bool)} {label : Key}
    (h : Table.get? held label = some true) :
    (Table.put label false held).countP Prod.snd + 1 = held.countP Prod.snd := by
  induction held with
  | nil => cases h
  | cons entry rest ih =>
    rw [Table.get?_cons] at h
    rw [Table.put]
    cases hLabel : entry.1 == label with
    | true =>
      rw [hLabel, if_pos rfl, Option.some.injEq] at h
      rw [if_pos rfl, List.countP_cons_of_neg (by simp), List.countP_cons_of_pos h]
    | false =>
      rw [hLabel, if_neg Bool.false_ne_true] at h
      have hRest := ih h
      rw [if_neg Bool.false_ne_true, List.countP_cons, List.countP_cons]
      omega

-- ---------------------------------------------------------------------------
-- Agreement
-- ---------------------------------------------------------------------------

/-- A bulkhead that began as `origin`, with so many workers, is as its past says. -/
structure Agrees (b origin : Bulkhead) (workers : Nat) (past : List (Step α)) : Prop where
  name_eq : b.name = origin.name
  stated_eq : b.stated = origin.stated
  patience_eq : b.patience = origin.patience
  held_le : heldIn past ≤ workers
  permits_eq : b.permits = some (workers - heldIn past)
  inFlight_eq : b.inFlight = heldIn past
  held_eq : b.held.countP Prod.snd = heldIn past
  labels_eq : ∀ label, (Table.get? b.held label).getD false = isHeldIn label past
  closed_eq : b.closed = closedIn past

variable {b origin : Bulkhead} {workers : Nat} {past : List (Step α)}

theorem Agrees.refusal_eq (h : b.Agrees origin workers past) : b.refusal = origin.refusal := by
  rw [refusal, refusal, h.name_eq, h.stated_eq, h.patience_eq]

/-- With as many tasks held as there are workers, a task finds no permit. -/
theorem submit_of_full (h : b.Agrees origin workers past) (hFull : heldIn past = workers) :
    b.submit = (b, .error origin.refusal) := by
  have hPermits : b.permits = some 0 := by
    rw [h.permits_eq, hFull, Nat.sub_self]
  have hTake : b.take? = none := by
    rw [take?, hPermits]
  rw [submit, hTake, ← h.refusal_eq]

/-- With fewer tasks held there is a permit to take. -/
theorem take?_of_free (h : b.Agrees origin workers past) (hFree : heldIn past < workers) :
    b.take? = some
      { b with permits := some (workers - heldIn past - 1), inFlight := heldIn past + 1 } := by
  obtain ⟨left, hLeft⟩ : ∃ left, workers - heldIn past = left + 1 :=
    Nat.exists_eq_add_one.mpr (by omega)
  have hPermits : b.permits = some (left + 1) := by
    rw [h.permits_eq, hLeft]
  rw [take?, hPermits, hLeft, h.inFlight_eq]
  rfl

/-- A permit that was taken in vain is back: a bulkhead that has been shut down starts no task. -/
theorem submit_of_closed (h : b.Agrees origin workers past) (hFree : heldIn past < workers)
    (hClosed : closedIn past = true) : b.submit = (b, .error .shutDown) := by
  have hTake := take?_of_free h hFree
  simp only [submit, hTake]
  rw [permits_giveBack_take? hTake]
  exact if_pos (h.closed_eq.trans hClosed)

theorem submit_of_open (h : b.Agrees origin workers past) (hFree : heldIn past < workers)
    (hOpen : closedIn past = false) :
    b.submit = ({ b with permits := some (workers - heldIn past - 1), inFlight := heldIn past + 1 },
      .ok ()) := by
  rw [submit, take?_of_free h hFree]
  exact if_neg (by rw [h.closed_eq, hOpen]; exact Bool.false_ne_true)

-- ---------------------------------------------------------------------------
-- One step
-- ---------------------------------------------------------------------------

theorem giveBack_of_submit {taken : Bulkhead} (h : b.submit = (taken, .ok ())) :
    taken.giveBack = b :=
  permits_giveBack_take? (submit_of_ok h).2

/-- A step that takes no permit for longer leaves the past as it was. -/
theorem Agrees.run (h : b.Agrees origin workers past) (result : α) :
    b.Agrees origin workers (.run result :: past) :=
  ⟨h.name_eq, h.stated_eq, h.patience_eq, h.held_le, h.permits_eq, h.inFlight_eq, h.held_eq,
    h.labels_eq, h.closed_eq⟩

/-- A task that is held takes a permit. -/
theorem Agrees.hold (h : b.Agrees origin workers past) (hFree : heldIn past < workers)
    (label : Key) :
    Agrees { b with
      permits := some (workers - heldIn past - 1)
      inFlight := heldIn past + 1
      held := (label, true) :: b.held } origin workers (.hold label :: past) := by
  refine ⟨h.name_eq, h.stated_eq, h.patience_eq, hFree, ?_, rfl, ?_, ?_, h.closed_eq⟩
  · show some (workers - heldIn past - 1) = some (workers - (heldIn past + 1))
    rw [Nat.sub_sub]
  · show List.countP Prod.snd ((label, true) :: b.held) = heldIn past + 1
    rw [List.countP_cons_of_pos rfl, h.held_eq]
  · intro other
    rw [Table.get?_cons, isHeldIn]
    cases label == other with
    | true => rfl
    | false => exact h.labels_eq other

/-- A task that is released gives its permit back. There is one to give back, as the task is one of
those that are held. -/
theorem Agrees.release (h : b.Agrees origin workers past) {label : Key}
    (hHeld : Table.get? b.held label = some true) :
    0 < heldIn past ∧ Agrees { b.giveBack with held := Table.put label false b.held } origin workers
      (.release label :: past) := by
  have hCount := countP_put_false hHeld
  rw [h.held_eq] at hCount
  have hLabel : isHeldIn label past = true := by
    rw [← h.labels_eq, hHeld]
    rfl
  have hFewer : heldIn (Step.release label :: past) = heldIn past - 1 := by
    rw [heldIn, if_pos hLabel]
  have hLe := h.held_le
  refine ⟨by omega, h.name_eq, h.stated_eq, h.patience_eq, by omega, ?_, ?_, ?_, ?_, h.closed_eq⟩
  · show b.permits.map (· + 1) = some (workers - heldIn (Step.release label :: past))
    rw [h.permits_eq, hFewer, Option.map_some, Option.some.injEq]
    omega
  · show b.inFlight - 1 = heldIn (Step.release label :: past)
    rw [h.inFlight_eq, hFewer]
  · rw [hFewer]
    show (Table.put label false b.held).countP Prod.snd = heldIn past - 1
    omega
  · intro other
    rw [isHeldIn]
    show (Table.get? (Table.put label false b.held) other).getD false = _
    rw [Table.get?_put]
    cases label == other with
    | true => rfl
    | false => exact h.labels_eq other

/-- Releasing a task again changes nothing. -/
theorem Agrees.releaseAgain (h : b.Agrees origin workers past) {label : Key}
    (hReleased : Table.get? b.held label = some false) :
    b.Agrees origin workers (.release label :: past) := by
  have hLabel : isHeldIn label past = false := by
    rw [← h.labels_eq, hReleased]
    rfl
  have hSame : heldIn (Step.release label :: past) = heldIn past := by
    rw [heldIn, hLabel, if_neg nofun]
  refine ⟨h.name_eq, h.stated_eq, h.patience_eq, ?_, ?_, ?_, ?_, ?_, h.closed_eq⟩
  · rw [hSame]
    exact h.held_le
  · rw [hSame]
    exact h.permits_eq
  · rw [hSame]
    exact h.inFlight_eq
  · rw [hSame]
    exact h.held_eq
  · intro other
    rw [isHeldIn]
    cases hOther : label == other with
    | false => exact h.labels_eq other
    | true =>
      -- the other label is the same key, and what it means has been released
      have hAlike : Table.get? b.held other = some false := (get?_of_beq hOther).trans hReleased
      rw [if_pos rfl, hAlike]
      rfl

/-- Shutting down takes no permit and gives none back. -/
theorem Agrees.shutdown (h : b.Agrees origin workers past) :
    b.shutdown.Agrees origin workers (.shutdown :: past) :=
  ⟨h.name_eq, h.stated_eq, h.patience_eq, h.held_le, h.permits_eq, h.inFlight_eq, h.held_eq,
    h.labels_eq, rfl⟩

theorem submitting_of_error {finish : Bulkhead → Bulkhead × Except Fault (Answer α)}
    {next : Bulkhead} {fault : Fault} (h : b.submit = (next, .error fault)) :
    b.submitting finish = (b, .error fault) := by
  rw [submitting, h, submit_of_error h]

theorem submitting_of_ok {finish : Bulkhead → Bulkhead × Except Fault (Answer α)} {taken : Bulkhead}
    (h : b.submit = (taken, .ok ())) : b.submitting finish = finish taken := by
  rw [submitting, h]

/-- Only with a permit is a task admitted. -/
theorem lt_of_submit (h : b.Agrees origin workers past) {taken : Bulkhead}
    (hSubmit : b.submit = (taken, .ok ())) : heldIn past < workers ∧ closedIn past = false := by
  have hFree : heldIn past < workers := by
    refine Nat.lt_of_le_of_ne h.held_le ?_
    intro hFull
    rw [submit_of_full h hFull] at hSubmit
    cases hSubmit
  refine ⟨hFree, ?_⟩
  cases hClosed : closedIn past with
  | false => rfl
  | true =>
    rw [submit_of_closed h hFree hClosed] at hSubmit
    cases hSubmit

/-- A step that submits a task need only be looked at where the task starts. -/
theorem agrees_submitting (h : b.Agrees origin workers past) (step : Step α)
    {finish : Bulkhead → Bulkhead × Except Fault (Answer α)}
    (hStarts : ∀ taken, b.submit = (taken, .ok ()) →
      (finish taken).1.Agrees origin workers
        ((success? (.ok step) (finish taken).2).toList ++ past)) :
    (b.submitting finish).1.Agrees origin workers
      ((success? (.ok step) (b.submitting finish).2).toList ++ past) := by
  rcases hSubmit : b.submit with ⟨next, fault | ⟨⟩⟩
  · rw [submitting_of_error hSubmit]
    exact h
  · rw [submitting_of_ok hSubmit]
    exact hStarts next hSubmit

/-- **One step keeps a bulkhead in agreement with its past**, whether it fails or not. -/
theorem agrees_attempt (h : b.Agrees origin workers past) (step? : Except Fault (Step α)) :
    (b.attempt step?).1.Agrees origin workers
      ((success? step? (b.attempt step?).2).toList ++ past) := by
  rcases step? with fault | step
  · exact h
  rw [attempt]
  cases step with
  | run result =>
    refine agrees_submitting h _ fun taken hSubmit => ?_
    rw [giveBack_of_submit hSubmit]
    exact h.run result
  | fail reason =>
    refine agrees_submitting h _ fun taken hSubmit => ?_
    rw [giveBack_of_submit hSubmit]
    exact h
  | hold label =>
    refine agrees_submitting h _ fun taken hSubmit => ?_
    obtain ⟨hFree, hOpen⟩ := lt_of_submit h hSubmit
    obtain ⟨rfl, -⟩ := Prod.ext_iff.mp ((submit_of_open h hFree hOpen).symm.trans hSubmit)
    exact h.hold hFree label
  | release label =>
    -- the task that the label means may be held, may have been released, or never was there
    have hGet := heldAs?_map_snd b label
    rw [step]
    rcases hHeld : b.heldAs? label with _ | ⟨asHeld, isHeld⟩
    · exact h
    · rw [hHeld, Option.map_some] at hGet
      cases isHeld with
      | true => exact (h.release hGet.symm).2
      | false => exact h.releaseAgain hGet.symm
  | shutdown => exact h.shutdown

-- ---------------------------------------------------------------------------
-- Runs
-- ---------------------------------------------------------------------------

/-- **Every run keeps a bulkhead in agreement with its past.** -/
theorem agrees_behind (h : b.Agrees origin workers past) (steps : List (Except Fault (Step α))) :
    (b.behind steps).Agrees origin workers (b.history steps ++ past) := by
  induction steps generalizing b past with
  | nil => exact h
  | cons step? rest ih =>
    have hRest := ih (agrees_attempt h step?)
    rw [← List.append_assoc] at hRest
    exact hRest

/-- The answers of a run are those of its steps, each where the steps ahead of it have led. -/
theorem run_append (front : List (Except Fault (Step α))) (step? : Except Fault (Step α)) :
    b.run (front ++ [step?]) = b.run front
      ++ [(((b.behind front).attempt step?).2, (b.behind (front ++ [step?])).available)] := by
  induction front generalizing b with
  | nil => rfl
  | cons head rest ih => exact congrArg (List.cons _) ih

theorem history_append (front : List (Except Fault (Step α))) (step? : Except Fault (Step α)) :
    b.history (front ++ [step?]) =
      (success? step? ((b.behind front).attempt step?).2).toList ++ b.history front := by
  induction front generalizing b with
  | nil => exact (List.append_nil _).symm
  | cons head rest ih =>
    show (b.attempt head).1.history (rest ++ [step?]) ++ _ = _
    rw [ih, List.append_assoc]
    rfl

-- ---------------------------------------------------------------------------
-- What a step comes to
-- ---------------------------------------------------------------------------

/-- A time for which a task can wait, and which then is over. -/
def IsDeadline (patience : Value) : Prop := waitFault? patience = none

/-- What is left of so many workers behind a past: as many permits, and as many workers that are
said to have nothing to do, as there are workers without a task. -/
structure Counted (b : Bulkhead) (workers : Nat) (past : List (Step α)) : Prop where
  held_le : heldIn past ≤ workers
  permits_eq : b.permits = some (workers - heldIn past)
  available_eq : b.available = .int (workers - heldIn past : Nat)

/-- What a step comes to on a bulkhead with so many workers, behind a past. `full` is the fault of a
task that is turned away for want of a permit. -/
structure Follows (b : Bulkhead) (workers : Nat) (full : Fault) (past : List (Step α))
    (step : Step α) : Prop where
  full_iff : ∀ outcome, step.outcome? = some outcome →
    ((b.step step).2 = .error full ↔ heldIn past = workers)
  shutDown_iff : ∀ outcome, step.outcome? = some outcome →
    ((b.step step).2 = .error .shutDown ↔ heldIn past ≠ workers ∧ closedIn past = true)
  /-- A task that is not turned away comes to its own end. -/
  admitted_iff : ∀ outcome, step.outcome? = some outcome →
    ((b.step step).2 = outcome ↔ heldIn past ≠ workers ∧ closedIn past = false)
  /-- Only a task that goes on keeps its permit. One that is turned away, for whatever reason, has
  none, and one that has ended has given it back. -/
  kept : ∀ outcome, step.outcome? = some outcome → (b.step step).2 ≠ .ok .holding →
    (b.step step).1 = b
  /-- Behind a permit that has been taken there is room for one that is given back. -/
  taken_lt : ∀ taken, b.take? = some taken → ∃ left, left < workers ∧ taken.permits = some left
  /-- So there is for the permit of a task that is released. -/
  released_lt : ∀ label, step = .release label → isHeldIn label past = true →
    ∃ left, left < workers ∧ b.permits = some left ∧ (b.step step).1.permits = some (left + 1)

theorem step_of_submit_error {step : Step α} {outcome : Except Fault (Answer α)} {next : Bulkhead}
    {fault : Fault} (hOutcome : step.outcome? = some outcome)
    (hSubmit : b.submit = (next, .error fault)) : b.step step = (b, .error fault) := by
  cases step with
  | release label => cases hOutcome
  | shutdown => cases hOutcome
  | run result => exact submitting_of_error hSubmit
  | fail reason => exact submitting_of_error hSubmit
  | hold label => exact submitting_of_error hSubmit

theorem step_of_submit_ok {step : Step α} {outcome : Except Fault (Answer α)} {taken : Bulkhead}
    (hOutcome : step.outcome? = some outcome) (hSubmit : b.submit = (taken, .ok ())) :
    (b.step step).2 = outcome ∧ (outcome ≠ .ok .holding → (b.step step).1 = b) := by
  cases step with
  | release label => cases hOutcome
  | shutdown => cases hOutcome
  | run result =>
    cases hOutcome
    rw [step, submitting_of_ok hSubmit]
    exact ⟨rfl, fun _ => giveBack_of_submit hSubmit⟩
  | fail reason =>
    cases hOutcome
    rw [step, submitting_of_ok hSubmit]
    exact ⟨rfl, fun _ => giveBack_of_submit hSubmit⟩
  | hold label =>
    cases hOutcome
    rw [step, submitting_of_ok hSubmit]
    exact ⟨rfl, fun hHolding => absurd rfl hHolding⟩

/-- No task comes to an end that could be taken for one of the two ways to be turned away. -/
theorem Step.outcome?_ne {step : Step α} {outcome : Except Fault (Answer α)}
    (hOutcome : step.outcome? = some outcome) :
    outcome ≠ .error .shutDown ∧ ∀ name stated, outcome ≠ .error (.bulkheadFull name stated) := by
  cases step with
  | release label => cases hOutcome
  | shutdown => cases hOutcome
  | run result =>
    cases hOutcome
    exact ⟨nofun, nofun⟩
  | fail reason =>
    cases hOutcome
    exact ⟨nofun, nofun⟩
  | hold label =>
    cases hOutcome
    exact ⟨nofun, nofun⟩

/-- The past alone decides what becomes of the next task. -/
theorem submit_cases (h : b.Agrees origin workers past) :
    (heldIn past = workers ∧ b.submit = (b, .error origin.refusal))
    ∨ (heldIn past ≠ workers ∧ closedIn past = true ∧ b.submit = (b, .error .shutDown))
    ∨ (heldIn past ≠ workers ∧ closedIn past = false ∧ ∃ taken, b.submit = (taken, .ok ())) := by
  by_cases hFull : heldIn past = workers
  · exact .inl ⟨hFull, submit_of_full h hFull⟩
  · have hFree : heldIn past < workers := Nat.lt_of_le_of_ne h.held_le hFull
    cases hClosed : closedIn past with
    | true => exact .inr (.inl ⟨hFull, rfl, submit_of_closed h hFree hClosed⟩)
    | false => exact .inr (.inr ⟨hFull, rfl, _, submit_of_open h hFree hClosed⟩)

theorem refusal_of_isDeadline (h : IsDeadline origin.patience) :
    origin.refusal = .bulkheadFull origin.name origin.stated := by
  rw [refusal, h, Option.getD_none]

/-- So it decides what the next step answers that submits a task. -/
theorem answer_cases (h : b.Agrees origin workers past) (hPatience : IsDeadline origin.patience)
    {step : Step α} {outcome : Except Fault (Answer α)} (hOutcome : step.outcome? = some outcome) :
    (heldIn past = workers ∧ (b.step step).2 = .error (.bulkheadFull origin.name origin.stated))
    ∨ (heldIn past ≠ workers ∧ closedIn past = true ∧ (b.step step).2 = .error .shutDown)
    ∨ (heldIn past ≠ workers ∧ closedIn past = false ∧ (b.step step).2 = outcome) := by
  obtain ⟨hFull, hSubmit⟩ | ⟨hFree, hClosed, hSubmit⟩ | ⟨hFree, hOpen, taken, hSubmit⟩ :=
    submit_cases h
  · rw [step_of_submit_error hOutcome hSubmit, refusal_of_isDeadline hPatience]
    exact .inl ⟨hFull, rfl⟩
  · rw [step_of_submit_error hOutcome hSubmit]
    exact .inr (.inl ⟨hFree, hClosed, rfl⟩)
  · exact .inr (.inr ⟨hFree, hOpen, (step_of_submit_ok hOutcome hSubmit).1⟩)

theorem counted_of_agrees (h : b.Agrees origin workers past)
    (hStated : origin.stated.asInteger? = some (workers : Int)) : b.Counted workers past := by
  have hLe := h.held_le
  refine ⟨hLe, h.permits_eq, ?_⟩
  have hHere : b.stated.asInteger? = some (workers : Int) := by
    rw [h.stated_eq, hStated]
  have hDifference : (workers : Int) - heldIn past = (workers - heldIn past : Nat) := by
    omega
  rw [available]
  split
  · rename_i hReal
    rw [hReal] at hHere
    cases hHere
  · rw [hHere, h.inFlight_eq, Option.getD_some, hDifference]

theorem permits_of_take? (h : b.Agrees origin workers past) {taken : Bulkhead}
    (hTake : b.take? = some taken) : ∃ left, left < workers ∧ taken.permits = some left := by
  have hFree : heldIn past < workers := by
    refine Nat.lt_of_le_of_ne h.held_le ?_
    intro hFull
    rw [take?, h.permits_eq, hFull, Nat.sub_self] at hTake
    cases hTake
  rw [take?_of_free h hFree] at hTake
  cases hTake
  exact ⟨_, by omega, rfl⟩

theorem get?_of_isHeldIn (h : b.Agrees origin workers past) {label : Key}
    (hHeld : isHeldIn label past = true) : Table.get? b.held label = some true := by
  have hLabel := h.labels_eq label
  rw [hHeld] at hLabel
  rcases hEntry : Table.get? b.held label with _ | isHeld
  · rw [hEntry] at hLabel
    cases hLabel
  · rw [hEntry] at hLabel
    exact congrArg some hLabel

theorem permits_of_release (h : b.Agrees origin workers past) {label : Key}
    (hHeld : isHeldIn label past = true) :
    ∃ left, left < workers ∧ b.permits = some left
      ∧ (b.step (.release label : Step α)).1.permits = some (left + 1) := by
  have hGet := get?_of_isHeldIn h hHeld
  obtain ⟨hSome, -⟩ := h.release hGet
  have hLe := h.held_le
  refine ⟨workers - heldIn past, by omega, h.permits_eq, ?_⟩
  have hAs := heldAs?_map_snd b label
  rw [hGet] at hAs
  obtain ⟨⟨asHeld, isHeld⟩, hFound, rfl⟩ := Option.map_eq_some_iff.mp hAs
  rw [step, hFound]
  show b.permits.map (· + 1) = _
  rw [h.permits_eq, Option.map_some]

/-- A step follows the past that a bulkhead agrees with. -/
theorem follows_of_agrees (h : b.Agrees origin workers past)
    (hPatience : IsDeadline origin.patience) (step : Step α) :
    Follows b workers (.bulkheadFull origin.name origin.stated) past step := by
  constructor
  case full_iff =>
    intro outcome hOutcome
    obtain ⟨hFull, hAnswer⟩ | ⟨hFree, -, hAnswer⟩ | ⟨hFree, -, hAnswer⟩ :=
      answer_cases h hPatience hOutcome
    · exact iff_of_true hAnswer hFull
    · rw [hAnswer]
      exact iff_of_false nofun hFree
    · rw [hAnswer]
      exact iff_of_false ((Step.outcome?_ne hOutcome).2 _ _) hFree
  case shutDown_iff =>
    intro outcome hOutcome
    obtain ⟨hFull, hAnswer⟩ | ⟨hFree, hClosed, hAnswer⟩ | ⟨-, hOpen, hAnswer⟩ :=
      answer_cases h hPatience hOutcome
    · rw [hAnswer]
      exact iff_of_false nofun fun hNot => hNot.1 hFull
    · exact iff_of_true hAnswer ⟨hFree, hClosed⟩
    · rw [hAnswer, hOpen]
      exact iff_of_false (Step.outcome?_ne hOutcome).1 fun hNot => nomatch hNot.2
  case admitted_iff =>
    intro outcome hOutcome
    obtain ⟨hFull, hAnswer⟩ | ⟨-, hClosed, hAnswer⟩ | ⟨hFree, hOpen, hAnswer⟩ :=
      answer_cases h hPatience hOutcome
    · rw [hAnswer]
      exact iff_of_false ((Step.outcome?_ne hOutcome).2 _ _).symm fun hNot => hNot.1 hFull
    · rw [hAnswer, hClosed]
      exact iff_of_false (Step.outcome?_ne hOutcome).1.symm fun hNot => nomatch hNot.2
    · exact iff_of_true hAnswer ⟨hFree, hOpen⟩
  case kept =>
    intro outcome hOutcome hAnswer
    rcases hSubmit : b.submit with ⟨next, fault | ⟨⟩⟩
    · rw [step_of_submit_error hOutcome hSubmit]
    · obtain ⟨hEnd, hBack⟩ := step_of_submit_ok hOutcome hSubmit
      rw [hEnd] at hAnswer
      exact hBack hAnswer
  case taken_lt =>
    intro taken hTake
    exact permits_of_take? h hTake
  case released_lt =>
    rintro label rfl hHeld
    exact permits_of_release h hHeld

-- ---------------------------------------------------------------------------
-- Every run of a bulkhead
-- ---------------------------------------------------------------------------

theorem ofWorkers_eq_ok (name patience : Value) {stated : Value} {workers : Nat}
    (hStated : stated.asInteger? = some (workers : Int)) (hWorkers : 1 ≤ workers) :
    ofWorkers name stated patience =
      .ok { name := name, stated := stated, permits := some workers, patience := patience } := by
  have hPermits : permitsOf stated = .ok (some workers) := by
    cases stated with
    | int n =>
      cases hStated
      have hBelow : Value.isBelow (.int workers) 1 = .ok false := by
        rw [Value.isBelow, decide_eq_false (by omega)]
      exact bind_eq_ok_iff.mpr ⟨false, hBelow, rfl⟩
    | bool flag =>
      cases flag with
      | true =>
        obtain rfl : workers = 1 := Int.ofNat.inj (Option.some.inj hStated).symm
        rfl
      | false =>
        obtain rfl : workers = 0 := Int.ofNat.inj (Option.some.inj hStated).symm
        exact absurd hWorkers (by decide)
    | _ => cases hStated
  exact bind_eq_ok_iff.mpr ⟨_, hPermits, rfl⟩

theorem agrees_of_new (name stated patience : Value) (workers : Nat) :
    Agrees
      { name := name, stated := stated, permits := some workers, patience := patience }
      { name := name, stated := stated, permits := some workers, patience := patience }
      workers ([] : List (Step α)) :=
  ⟨rfl, rfl, rfl, Nat.zero_le _, rfl, rfl, rfl, fun _ => rfl, rfl⟩

/-- **The past says how full a bulkhead is.** Any number of workers from one on makes a bulkhead,
and behind every run of it there are as many permits, and as many workers that are said to have
nothing to do, as there are workers without a task that is held. The next task is turned away for
want of a permit just when all workers have such a task, and otherwise just when the bulkhead has
been shut down. No task but one that is held has a permit longer than its step lasts, and no permit
is given back that had not been taken. -/
theorem behind_counts_held (name : Value) {stated patience : Value} {workers : Nat}
    (hStated : stated.asInteger? = some (workers : Int)) (hWorkers : 1 ≤ workers)
    (hPatience : IsDeadline patience) :
    ∃ b, ofWorkers name stated patience = .ok b ∧ ∀ steps : List (Except Fault (Step α)),
      Counted (b.behind steps) workers (b.history steps)
      ∧ (∀ step,
        Follows (b.behind steps) workers (.bulkheadFull name stated) (b.history steps) step)
      ∧ ∀ step?, b.run (steps ++ [step?]) = b.run steps
          ++ [(((b.behind steps).attempt step?).2, (b.behind (steps ++ [step?])).available)]
        ∧ b.history (steps ++ [step?])
          = (success? step? ((b.behind steps).attempt step?).2).toList ++ b.history steps := by
  refine ⟨_, ofWorkers_eq_ok name patience hStated hWorkers, ?_⟩
  intro steps
  have hAgrees := agrees_behind (agrees_of_new name stated patience workers) steps
  rw [List.append_nil] at hAgrees
  refine ⟨counted_of_agrees hAgrees hStated, follows_of_agrees hAgrees hPatience, ?_⟩
  intro step?
  exact ⟨run_append steps step?, history_append steps step?⟩

/-- The only worker has a task that goes on. -/
def heldSteps : List (Except Fault (Step Unit)) := [.ok (.hold (.text ['a']))]

theorem behind_counts_held_one :
    ∃ b, ofWorkers (.text ['b']) (.int 1) (.int 1) = .ok b
      ∧ (b.behind heldSteps).available = .int 0
      ∧ ((b.behind heldSteps).step (.run ())).2
        = .error (.bulkheadFull (.text ['b']) (.int 1)) := by
  have hPatience : IsDeadline (.int 1) := (by decide : waitFault? (.int 1) = none)
  have hStated : (Value.int 1).asInteger? = some ((1 : Nat) : Int) := rfl
  obtain ⟨b, hMade, hRun⟩ := behind_counts_held (.text ['b']) hStated (by decide) hPatience
  obtain ⟨hCounted, hFollows, -⟩ := hRun heldSteps
  have hHeld : heldIn (b.history heldSteps) = 1 := by
    cases hMade
    rfl
  refine ⟨b, hMade, ?_, (hFollows (.run ())).full_iff _ rfl |>.mpr hHeld⟩
  rw [hCounted.available_eq, hHeld]
  rfl

/-- A task that would have to wait for three hundred years is turned away as well, but is not told
that the bulkhead is full. -/
theorem overlong_wait_not_refused :
    ∃ b, ofWorkers (.text ['b']) (.int 1) (.int 10000000000) = .ok b
      ∧ heldIn (b.history heldSteps) = 1
      ∧ ((b.behind heldSteps).step (.run ())).2 = .error .longWait
      ∧ ((b.behind heldSteps).step (.run ())).2
        ≠ .error (.bulkheadFull (.text ['b']) (.int 1)) := by
  have hFault : waitFault? (.int 10000000000) = some .longWait := by
    rfl
  have hAgrees := agrees_behind (agrees_of_new (.text ['b']) (.int 1) (.int 10000000000) 1)
    heldSteps
  have hOutcome : (Step.run ()).outcome? = some (.ok (.returned ())) := rfl
  have hAnswer := congrArg Prod.snd (step_of_submit_error hOutcome (submit_of_full hAgrees rfl))
  rw [refusal, hFault, Option.getD_some] at hAnswer
  exact ⟨_, rfl, rfl, hAnswer, fun hFull => nomatch hAnswer.symm.trans hFull⟩

end EventLoom.Bulkhead
