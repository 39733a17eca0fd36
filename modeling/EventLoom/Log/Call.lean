import EventLoom.Log.Setup
import EventLoom.Value.Arithmetic

/-!
# Calls to the log

Every call names a logger, may bind values to it, and is made while some streams are at work, the
innermost last. The record of a call holds the innermost stream, then the bound values, then the
call's own fields, each overwriting what came before, and at last the event, the logger and the
level, which nothing overwrites. A call without an event leaves the one that is bound, if there
is one.

Some names are not free. A call whose bound values or fields have one of the logger's own names
is refused, whether or not its level is let through; a few other names mean something to the log
itself and never come into a record.

The methods that log an event are not all that a logger has. A method may also log at the level
of a rank, log later, or do something else with the one value that it is called with. None of
these sees to the kinds of a call's parts beforehand.

All of this the log does, and not this library, whose own calls are entries. It is assumed here for
calls of any kind as `Entry.entries` assumes it for those, with one merge for both (`within`).
-/

namespace EventLoom.Log

open Text

/-- A call to the log. -/
structure Call where
  logger : Value
  bound : Value
  streams : Value
  /-- The name of the method that is called. -/
  method : Value
  event : Value
  fields : Value

-- ---------------------------------------------------------------------------
-- What a logger can do
-- ---------------------------------------------------------------------------

/-- What a logger can do with one value. -/
inductive Operation where
  /-- Let go of what is bound under a key. -/
  | unbind
  /-- Let go of what may be bound under a key. -/
  | tryUnbind
  | setLevel
  | testLevel
  | child
  /-- Send records to one more place. No value is a place that can take them. -/
  | attach
  /-- Send no more records to a place. -/
  | detach
  | findCaller
  /-- Hand over a record that somebody else has made. No value is such a record. -/
  | handle
  deriving DecidableEq, Repr

/-- What a logger's name stands for. -/
inductive Action where
  | record (method : Method)
  /-- Log at the level of a rank, which stands where the event does otherwise. -/
  | recordAt
  /-- Log later, when the caller waits for it. Nobody waits here. -/
  | postpone
  | postponeAt
  | operate (operation : Operation)
  /-- The name is none that can be called with one value. -/
  | unusable
  deriving DecidableEq, Repr

namespace Action

/-- The operations by name. -/
def operations : List (Text × Operation) := [
  ("unbind".toList, .unbind), ("try_unbind".toList, .tryUnbind), ("setLevel".toList, .setLevel),
  ("isEnabledFor".toList, .testLevel), ("getChild".toList, .child),
  ("addHandler".toList, .attach), ("removeHandler".toList, .detach),
  ("findCaller".toList, .findCaller), ("handle".toList, .handle),
  ("callHandlers".toList, .handle)]

/-- The names of methods that log later. -/
def postponed : List Text := [
  "adebug".toList, "ainfo".toList, "awarning".toList, "aerror".toList, "acritical".toList,
  "afatal".toList, "aexception".toList]

/-- The names that are taken and cannot be called with one value. -/
def unusableNames : List Text := [
  "bind".toList, "new".toList, "name".toList, "level".toList, "parent".toList,
  "propagate".toList, "handlers".toList, "disabled".toList, "hasHandlers".toList,
  "getEffectiveLevel".toList, "makeRecord".toList, "_logger".toList, "_context".toList,
  "_processors".toList]

/-- What a name stands for, if it is taken. -/
def ofName? (name : Text) : Option Action :=
  match Method.ofName? name, operations.lookup name with
  | some method, _ => some (.record method)
  | none, some operation => some (.operate operation)
  | none, none =>
    if name = "log".toList then some .recordAt
    else if name = "alog".toList then some .postponeAt
    else if postponed.contains name then some .postpone
    else if unusableNames.contains name then some .unusable
    else none

/-- What a method of a call stands for. -/
def ofMethod (method : Value) : Except Fault Action :=
  match method with
  | .text name => (ofName? name).elim (.error .noSuchOperation) .ok
  | _ => .error .wrongType

end Action

/-- The method that logs at the level of a rank. -/
def methodOfRank (rank : Value) : Except Fault Method := do
  let key ← rank.toKey
  match [Method.debug, .info, .warning, .error, .critical].find? fun m => key == .int m.rank with
  | some method => return method
  | none => throw (.absentKey key)

/-- The rank of the level that a logger is told to have. -/
def ownRank (level : Value) : Except Fault Int :=
  match level with
  | .text name => (levelRanks.lookup name).elim (.error (.unknownLevel name)) .ok
  | v => v.asInteger?.elim (.error .wrongType) .ok

/-- Whether two values name the same place: as keys, or else as they are written. -/
def isSamePlace (v w : Value) : Bool :=
  match v.toKey, w.toKey with
  | .ok k, .ok l => k == l
  | .error _, .error _ => v.quoted == w.quoted
  | _, _ => false

-- ---------------------------------------------------------------------------
-- Names that are not free
-- ---------------------------------------------------------------------------

/-- Whether one of the names is among the keys. -/
def mentions (entries : Entries) (names : List Text) : Bool :=
  names.any fun name => (Table.get? entries (.text name)).isSome

/-- Refuse entries that have one of the names as a key. -/
def refuse (entries : Entries) (names : List Text) : Except Fault Unit :=
  if mentions entries names then .error .wrongType else .ok ()

/-- The name under which a logger knows itself. -/
def selfName : Text := "self".toList

/-- The name of the event. -/
def eventName : Text := "event".toList

/-- The name of the level. -/
def levelName : Text := "level".toList

/-- The name under which a logger hands a method on. -/
def methodName : Text := "method_name".toList

/-- The names that cannot be bound. -/
def loggerNames : List Text := ["name".toList, selfName]

/-- The name under which the log keeps a record while it is written. -/
def recordName : Text := "_record".toList

/-- The names that mean something to the log itself. -/
def innerNames : List Text :=
  [recordName, "_from_structlog".toList, "stack_info".toList, "timestamp".toList]

-- ---------------------------------------------------------------------------
-- Records
-- ---------------------------------------------------------------------------

/-- The name of a logger; what counts as nothing is the root. -/
def loggerNameOf (logger : Value) : Except Fault Text :=
  if !logger.isTruthy then .ok rootName
  else
    match logger with
    | .text name => .ok name
    | _ => .error .wrongType

/-- A call whose parts are of the right kinds. -/
structure Target where
  logger : Text
  /-- What the streams at work say. -/
  context : Entries
  bound : Entries
  action : Action
  fields : Entries

/-- Look at the parts of a call, one after the other. -/
def Call.target (c : Call) : Except Fault Target := do
  let streams ← c.streams.items
  let context := (streams.getLast?.map fun streamId => (streamField, streamId)).toList
  let bound ← c.bound.asEntries
  refuse bound loggerNames
  let logger ← loggerNameOf c.logger
  let action ← Action.ofMethod c.method
  return ⟨logger, context, bound, action, ← c.fields.asEntries⟩

namespace Target

/-- What is said of the event from all sides. -/
def said (t : Target) (method : Method) (fields : Entries) : Entries :=
  within (Table.merge t.context t.bound) method fields

/-- What nothing overwrites. -/
def stamp (t : Target) (method : Method) (event : Value) : Entries :=
  let marks : Entries :=
    [("logger".toList, .text t.logger), (levelName, .text method.level)]
  match event with
  | .null => marks
  | event => (eventName, event) :: marks

/-- The record of an event without the time. What already goes by the name of a record has to be
nothing. -/
def record (t : Target) (method : Method) (event : Value) (fields : Entries) :
    Except Fault Entries :=
  let said := t.said method fields
  match Table.get? said (.text recordName) with
  | none | some .null =>
    .ok ((Table.merge said (t.stamp method event)).filter fun entry =>
      !(entry.1.asText?.any innerNames.contains))
  | some _ => .error .noSuchOperation

/-- Log an event. -/
def leave (t : Target) (loggers : Loggers) (setup : Setup) (method : Method) (event : Value)
    (fields : Entries) : Except Fault (Option Entries) := do
  refuse fields [methodName, selfName]
  loggers.letThrough setup t.logger method (← t.record method event fields)

/-- Do something with one value: what the loggers have been told behind it. -/
def operate (t : Target) (loggers : Loggers) (v : Value) : Operation → Except Fault Loggers
  | .unbind => do
    discard (Value.ofEntry t.bound (← v.toKey))
    return loggers
  | .tryUnbind => do
    discard v.toKey
    return loggers
  | .setLevel => do
    return { loggers with levels := Table.put t.logger (← ownRank v) loggers.levels }
  | .testLevel => if v.isReal then .ok loggers else .error .wrongType
  | .child => if v.asText?.isSome then .ok loggers else .error .wrongType
  | .attach => .ok { loggers with faulty := (t.logger, v) :: loggers.faulty }
  | .detach =>
    let isMeant (place : Text × Value) : Bool := place.1 == t.logger && isSamePlace place.2 v
    .ok { loggers with faulty := loggers.faulty.filter fun place => !isMeant place }
  | .findCaller => .ok loggers
  | .handle => .error .noSuchOperation

/-- Do what a call asks: what the loggers have been told behind it, and the record that is left. -/
def perform (t : Target) (loggers : Loggers) (setup : Setup) (event : Value) :
    Except Fault (Loggers × Option Entries) :=
  match t.action with
  | .record method => do
    refuse t.fields [eventName]
    return (loggers, ← t.leave loggers setup method event t.fields)
  | .recordAt => do
    refuse t.fields [levelName, selfName]
    let method ← methodOfRank event
    let (named, fields) := t.fields.partition fun entry => entry.1 == .text eventName
    return (loggers, ← t.leave loggers setup method ((named.head?.map Prod.snd).getD .null) fields)
  | .postpone => do
    refuse t.fields [eventName, selfName]
    return (loggers, none)
  | .postponeAt => do
    refuse t.fields [levelName, selfName]
    if mentions t.fields [eventName] then return (loggers, none) else throw .wrongType
  | .operate operation =>
    if t.fields.isEmpty then do return (← t.operate loggers event operation, none)
    else .error .wrongType
  | .unusable => .error .wrongType

end Target

/-- Make a call. -/
def Call.make (c : Call) (loggers : Loggers) (setup : Setup) :
    Except Fault (Loggers × Option Entries) := do
  (← c.target).perform loggers setup c.event

/-- The records that calls leave, one after the other. -/
def records (setup : Setup) (loggers : Loggers) : List Call → List (Except Fault (Option Entries))
  | [] => []
  | c :: rest =>
    match c.make loggers setup with
    | .ok (next, left) => .ok left :: records setup next rest
    | .error fault => .error fault :: records setup loggers rest

end EventLoom.Log
