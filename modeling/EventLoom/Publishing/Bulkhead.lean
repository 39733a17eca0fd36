import EventLoom.Value.Arithmetic

/-!
# Bulkheads

A bulkhead runs tasks on a bounded number of workers. A task is submitted by taking one of as many
permits as there are workers, and gives it back when it ends, whether it returns or fails. There
is no queue: with no permit left, a task waits and is then turned away, and that is found out before
anything else. When the bulkhead has been shut down, a task that has taken its permit cannot start
any more and gives it back; tasks that are running go on.

The number of workers may be stated as a fraction. Permits are taken one by one and used up when
exactly none is left, which never comes to pass with a fraction of them; then no task is turned
away for want of a permit.

Tasks are taken one after the other here. One that is held keeps its permit until it is
released. It is held under a label, and a label means the task that was last held under it, also
when that one has been released. No step is made while a task waits, so nothing ends a wait but the
time that the task has for it: without such a time, or with one that is no number, it goes on for
ever. The answer `endlessWait` then stands for none, and a run means nothing from there on.

## Results

* `permits_giveBack_take?` — giving back undoes taking.
* `submit_of_error` — a task that does not start leaves the bulkhead as it was.
* `submit_of_ok` — a task that starts has taken one permit and nothing else.
-/

namespace EventLoom

/-- A pool of workers with the permits that are left, the number of tasks that are under way, and
the labels under which tasks were held, the last one first. -/
structure Bulkhead where
  name : Value
  /-- The number of workers as it was stated. -/
  stated : Value
  /-- The permits that are left; none at all if they are never used up. -/
  permits : Option Nat
  inFlight : Nat := 0
  /-- How long a task may wait for a permit. -/
  patience : Value := .null
  /-- Every label with whether its task is still held. -/
  held : List (Key × Bool) := []
  closed : Bool := false

namespace Bulkhead

/-- The number of workers that a bulkhead has if none is stated. -/
def defaultWorkers : Value := .int 4

/-- The permits for a stated number of workers. A truth value counts as a number. -/
def permitsOf (stated : Value) : Except Fault (Option Nat) := do
  if ← stated.isBelow 1 then throw .tooFewWorkers
  match stated with
  | .float x => return x.toInt?.map Int.toNat
  | _ => return stated.asInteger?.map Int.toNat

/-- A bulkhead with all its permits. -/
def ofWorkers (name stated patience : Value) : Except Fault Bulkhead := do
  return { name := name, stated := stated, permits := ← permitsOf stated, patience := patience }

/-- The number of workers that have nothing to do, in the kind of number that was stated; below
zero if more tasks have been admitted. -/
def available (b : Bulkhead) : Value :=
  match b.stated with
  | .float x => .float (x.plus (.ofInt (-b.inFlight)))
  | stated => .int (stated.asInteger?.getD 0 - b.inFlight)

-- ---------------------------------------------------------------------------
-- Permits
-- ---------------------------------------------------------------------------

/-- Take a permit, if one is left, and count the task. -/
def take? (b : Bulkhead) : Option Bulkhead :=
  match b.permits with
  | some 0 => none
  | some (left + 1) => some { b with permits := some left, inFlight := b.inFlight + 1 }
  | none => some { b with inFlight := b.inFlight + 1 }

/-- Give a permit back, and count the task no more. -/
def giveBack (b : Bulkhead) : Bulkhead :=
  { b with permits := b.permits.map (· + 1), inFlight := b.inFlight - 1 }

/-- The nanoseconds of a second. -/
def nanoseconds : Nat := Number.tenTo 9

/-- The number of nanoseconds that a clock does not reach. -/
def clockLimit : Nat := Number.twoTo 63

/-- What else becomes of a task that is to wait for so many seconds than that the time runs out.
Only a number says how long to wait, and the time that is none is never over. -/
def waitFault? (patience : Value) : Option Fault :=
  match patience with
  | .null | .float .nan => some .endlessWait
  | .float x =>
    if (x.times (.ofInt nanoseconds)).lessThan clockLimit then none else some .longTime
  | v =>
    match v.asInteger? with
    | some seconds =>
      match Number.realOfInteger seconds with
      | .error fault => some fault
      | .ok _ => if seconds * nanoseconds < clockLimit then none else some .longWait
    | none => some .wrongType

/-- What a task gets that waits for a permit in vain. -/
def refusal (b : Bulkhead) : Fault :=
  (waitFault? b.patience).getD (.bulkheadFull b.name b.stated)

/-- Submit a task: the bulkhead behind it, and why the task does not start, if it does not. Whether
the bulkhead has been shut down is found out with the permit in hand, which is then given back. -/
def submit (b : Bulkhead) : Bulkhead × Except Fault Unit :=
  match b.take? with
  | none => (b, .error b.refusal)
  | some taken => if taken.closed then (taken.giveBack, .error .shutDown) else (taken, .ok ())

/-- Start no more tasks. -/
def shutdown (b : Bulkhead) : Bulkhead := { b with closed := true }

theorem permits_giveBack_take? {b taken : Bulkhead} (h : b.take? = some taken) :
    taken.giveBack = b := by
  obtain ⟨name, stated, permits, inFlight, patience, held, closed⟩ := b
  simp only [take?] at h
  split at h
  · cases h
  · cases h
    simp_all [giveBack]
  · cases h
    simp_all [giveBack]

theorem closed_of_take? {b taken : Bulkhead} (h : b.take? = some taken) :
    taken.closed = b.closed := by
  rw [← permits_giveBack_take? h]
  rfl

/-- A task that does not start leaves the bulkhead as it was: it had no permit, or it has given it
back. -/
theorem submit_of_error {b next : Bulkhead} {fault : Fault} (h : b.submit = (next, .error fault)) :
    next = b := by
  unfold submit at h
  split at h
  · cases h
    rfl
  · rename_i taken hTake
    split at h
    · cases h
      exact permits_giveBack_take? hTake
    · cases h

/-- A task that starts has taken a permit. -/
theorem submit_of_ok {b next : Bulkhead} (h : b.submit = (next, .ok ())) :
    b.closed = false ∧ b.take? = some next := by
  unfold submit at h
  split at h
  · cases h
  · rename_i taken hTake
    split at h
    · cases h
    · rename_i hOpen
      cases h
      rw [closed_of_take? hTake] at hOpen
      exact ⟨Bool.eq_false_iff.mpr hOpen, hTake⟩

-- ---------------------------------------------------------------------------
-- Steps
-- ---------------------------------------------------------------------------

/-- A step on a bulkhead whose tasks return values of the type `α`. -/
inductive Step (α : Type) where
  /-- Run a task that returns `result`. -/
  | run (result : α)
  /-- Run a task that fails. -/
  | fail (reason : Text)
  /-- Start a task that goes on until it is released. -/
  | hold (label : Key)
  | release (label : Key)
  | shutdown

/-- What a step answers. -/
inductive Answer (α : Type) where
  | returned (result : α)
  | holding
  | released (label : Key)
  | done

variable {α : Type}

/-- Submit a task; `finish` gives its end, if it starts. -/
def submitting (b : Bulkhead) (finish : Bulkhead → Bulkhead × Except Fault (Answer α)) :
    Bulkhead × Except Fault (Answer α) :=
  match b.submit with
  | (next, .error fault) => (next, .error fault)
  | (taken, .ok ()) => finish taken

/-- The label as it was when a task was last held under it, and whether that one still is. -/
def heldAs? (b : Bulkhead) (label : Key) : Option (Key × Bool) :=
  b.held.find? fun entry => entry.1 == label

/-- Make one step. -/
def step (b : Bulkhead) : Step α → Bulkhead × Except Fault (Answer α)
  | .run result => b.submitting fun taken => (taken.giveBack, .ok (.returned result))
  | .fail reason => b.submitting fun taken => (taken.giveBack, .error (.taskFailed reason))
  | .hold label => b.submitting fun taken =>
    ({ taken with held := (label, true) :: taken.held }, .ok .holding)
  | .release label =>
    match b.heldAs? label with
    | none => (b, .error (.absentKey label))
    | some (asHeld, true) =>
      ({ b.giveBack with held := Table.put label false b.held }, .ok (.released asHeld))
    | some (asHeld, false) => (b, .ok (.released asHeld))
  | .shutdown => (b.shutdown, .ok .done)

/-- Make a step that may not have come about; then the bulkhead is as before. -/
def attempt (b : Bulkhead) (step? : Except Fault (Step α)) :
    Bulkhead × Except Fault (Answer α) :=
  match step? with
  | .ok step => b.step step
  | .error fault => (b, .error fault)

/-- Make steps one after the other; each answers together with the number of workers that have
nothing to do behind it. -/
def run (b : Bulkhead) : List (Except Fault (Step α)) → List (Except Fault (Answer α) × Value)
  | [] => []
  | step? :: rest =>
    let (next, answer) := b.attempt step?
    (answer, next.available) :: run next rest

end Bulkhead

end EventLoom
