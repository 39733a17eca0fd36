import EventLoom.Fault

/-!
# Log entries

What the operations of this library hand to the log. An entry is a call to it: the stream at work,
if there is one, the method that is called, the event's name, and fields.

The log itself is not part of this library. What is assumed of it is all in `Entry.entries`: the
stream at work is a field, and a field of that name of the call's own wins (`within`); a call about
an exception says so in a field, unless it has that field itself (`withMethodFields`); and the event
and the level come last, whatever the fields say. The level is that of the method, and of an
exception that of an error (`Method.level`).
-/

namespace EventLoom.Log

open Text

/-- The ways to log an event. -/
inductive Method where
  | debug
  | info
  | warning
  | warn
  | error
  | exception
  | critical
  | fatal
  deriving DecidableEq, Repr

namespace Method

/-- All methods. -/
def all : List Method :=
  [.debug, .info, .warning, .warn, .error, .exception, .critical, .fatal]

/-- The name of the method. -/
def name : Method → Text
  | .debug => "debug".toList
  | .info => "info".toList
  | .warning => "warning".toList
  | .warn => "warn".toList
  | .error => "error".toList
  | .exception => "exception".toList
  | .critical => "critical".toList
  | .fatal => "fatal".toList

/-- The method of a given name. -/
def ofName? (t : Text) : Option Method := all.find? fun m => m.name = t

/-- The name of the level that the method logs at. -/
def level : Method → Text
  | .warn => name .warning
  | .exception => name .error
  | .fatal => name .critical
  | m => m.name

/-- How severe the method's level is. -/
def rank : Method → Int
  | .debug => 10
  | .info => 20
  | .warning | .warn => 30
  | .error | .exception => 40
  | .critical | .fatal => 50

end Method

/-- The fields of a call with those that its method adds. -/
def withMethodFields (method : Method) (fields : Entries) : Entries :=
  let name : Key := "exc_info".toList
  match method, Table.get? fields name with
  | .exception, none => Table.put name (.bool true) fields
  | _, _ => fields

/-- What a call says where something has been said before: its own fields are written over that. -/
def within (context : Entries) (method : Method) (fields : Entries) : Entries :=
  Table.merge context (withMethodFields method fields)

/-- A call to the log. -/
structure Entry where
  /-- The stream that is at work. -/
  streamId? : Option Text
  method : Method
  event : Text
  fields : Entries

/-- The field that names a stream. -/
def streamField : Key := .text "stream_id".toList

namespace Entry

/-- The fields of the entry together with the stream that is at work. -/
def said (e : Entry) : Entries :=
  match e.streamId? with
  | some streamId => within [(streamField, .text streamId)] e.method e.fields
  | none => withMethodFields e.method e.fields

/-- Everything that the log holds of the entry, by name. -/
def entries (e : Entry) : Entries :=
  Table.put (.text "log_level".toList) (.text e.method.level)
    (Table.put (.text "event".toList) (.text e.event) e.said)

end Entry

end EventLoom.Log
