import EventLoom.Mapping.Activation
import EventLoom.Publishing.Bulkhead
import EventLoom.Registry.Memory
import EventLoom.Settings.Publisher

/-!
# Publishing sessions

A session has a place for one mapper, a publisher that renders events with the mapper that is in
that place and sends what comes of it, and resources for mappings. Activating a mapping puts a
new mapper into the place, if it succeeds; otherwise the one that is there stays.

An event is published by one task on the publisher's bulkhead. The task looks for the mapper
once. If rendering or sending fails the failure is logged with the name of the mapper's stream;
that there is no mapper at all is not logged.

Sending may fail with any `Fault`, be it a problem of this library or not. A problem of somebody
else's, with details under names that a call to the log has for itself, is not among them.
-/

namespace EventLoom

open Text

/-- A session with the mapper in use, those that were set aside under a name, and what has been
sent, the last one last. -/
structure Session where
  resources : Option Entries
  pool : Bulkhead
  current : Option Mapper := none
  saved : List (Key × Option Mapper) := []
  sent : List Text := []
  /-- What sending fails with, if it does. -/
  broken : Option Fault := none

namespace Session

/-- The name of the publisher's bulkhead. -/
def poolName : Value := .text "eventmap-publisher".toList

/-- A session whose publisher has the stated number of workers. -/
def start (resources : Option Entries) (workers : Value) : Except Fault Session := do
  let settings : PublisherSettings := { workers := workers }
  settings.check
  return { resources := resources, pool := ← Bulkhead.ofWorkers poolName settings.workers .null }

/-- What the session reads resources from. -/
def reader (s : Session) : Option (Text → Except Fault Text) :=
  s.resources.map Registry.readMemory

-- ---------------------------------------------------------------------------
-- Publishing
-- ---------------------------------------------------------------------------

/-- The entry for an event that could not be published. The fields of a problem come first, and
the name of the stream wins over what they say. -/
def failure (streamId : Text) (fault : Fault) : Log.Entry :=
  ⟨none, .exception, "event_publish_failed".toList,
    Table.put Log.streamField (.text streamId) ((fault.problem?.map Problem.logFields).getD [])⟩

/-- Render an event and send it. -/
def deliver (s : Session) (m : Mapper) (values : Value) : Except Fault Text :=
  match m.render values, s.broken with
  | .error fault, _ => .error fault
  | .ok _, some fault => .error fault
  | .ok t, none => .ok t

/-- The task that publishes an event: the text that was sent, and what is logged. -/
def task (s : Session) (values : Value) : Except Fault Text × List Log.Entry :=
  match s.current with
  | none => (.error .noActiveMapping, [])
  | some m =>
    match s.deliver m values with
    | .ok t => (.ok t, [])
    | .error fault => (.error fault, [failure m.streamId fault])

/-- Publish an event, which may be given as anything that has items. -/
def publish (s : Session) (event : Value) : Session × Except Fault Text × List Log.Entry :=
  match event.items with
  | .error fault => (s, .error fault, [])
  | .ok items =>
    match s.pool.submit with
    | (next, .error fault) => ({ s with pool := next }, .error fault, [])
    | (taken, .ok ()) =>
      let (result, log) := s.task (.tuple items)
      ({ s with pool := taken.giveBack, sent := s.sent ++ result.toOption.toList }, result, log)

-- ---------------------------------------------------------------------------
-- Steps
-- ---------------------------------------------------------------------------

/-- A step of a session. -/
inductive Step where
  | activate (mapping : OutputMapping) (stream : Stream) (emptyPolicy : EmptyPolicy)
  /-- Set the mapper in use aside under a name. -/
  | save (name : Key)
  /-- Use the mapper that was set aside under a name. -/
  | swap (name : Key)
  | render (event : Value)
  | renderSaved (name : Key) (event : Value)
  | publish (event : Value)
  /-- From now on sending fails with the given fault, or succeeds again. -/
  | breakDown (fault : Option Fault)
  | putResource (path content : Value)
  | listSent
  | clearSent
  | close

/-- What a step answers. -/
inductive Answer where
  | mapper (m : Option Mapper)
  | text (t : Text)
  /-- What is found in the resources. -/
  | content (v : Value)
  | texts (list : List Text)
  | done

/-- What is there behind a step: the session, the answer, and what was logged. -/
structure Result where
  session : Session
  answer : Except Fault Answer
  log : List Log.Entry := []

/-- Render with a mapper that may not be there. -/
def renderWith (m : Option Mapper) (event : Value) : Except Fault Answer :=
  match m with
  | none => .error .noSuchOperation
  | some m => (m.render event).map .text

/-- The mapper that was set aside under a name. -/
def lookUpSaved (s : Session) (name : Key) : Except Fault (Option Mapper) :=
  match Table.get? s.saved name with
  | some m => .ok m
  | none => .error (.absentKey name)

/-- Make one step. -/
def step (s : Session) : Step → Result
  | .activate mapping stream emptyPolicy =>
    let activation := EventLoom.activate mapping stream s.reader emptyPolicy
    match activation.result with
    | .ok m => ⟨{ s with current := some m }, .ok (.mapper (some m)), activation.log⟩
    | .error fault => ⟨s, .error fault, activation.log⟩
  | .save name => ⟨{ s with saved := Table.put name s.current s.saved }, .ok (.mapper s.current), []⟩
  | .swap name =>
    match s.lookUpSaved name with
    | .ok m => ⟨{ s with current := m }, .ok (.mapper s.current), []⟩
    | .error fault => ⟨s, .error fault, []⟩
  | .render event => ⟨s, renderWith s.current event, []⟩
  | .renderSaved name event => ⟨s, s.lookUpSaved name >>= (renderWith · event), []⟩
  | .publish event =>
    let (next, result, log) := s.publish event
    ⟨next, result.map .text, log⟩
  | .breakDown fault => ⟨{ s with broken := fault }, .ok .done, []⟩
  | .putResource path content =>
    match s.resources, path.toKey with
    | none, _ => ⟨s, .error .noSuchOperation, []⟩
    | _, .error fault => ⟨s, .error fault, []⟩
    | some resources, .ok key =>
      ⟨{ s with resources := some (Table.put key content resources) }, .ok (.content content), []⟩
  | .listSent => ⟨s, .ok (.texts s.sent), []⟩
  | .clearSent => ⟨{ s with sent := [] }, .ok .done, []⟩
  | .close => ⟨{ s with pool := s.pool.shutdown }, .ok .done, []⟩

/-- Make a step that may not have come about; then the session is as before. -/
def attempt (s : Session) (step? : Except Fault Step) : Result :=
  match step? with
  | .ok step => s.step step
  | .error fault => ⟨s, .error fault, []⟩

/-- Make steps one after the other. -/
def run (s : Session) : List (Except Fault Step) → List Result
  | [] => []
  | step? :: rest =>
    let result := s.attempt step?
    result :: run result.session rest

end Session

end EventLoom
