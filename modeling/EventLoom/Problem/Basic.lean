import EventLoom.Json.Writer

/-!
# Problems

A problem is what this library reports to its users: what it is about, an identifying code, a
message, details by name, and the event that caused it, if there was one. Problems form families,
and every family lies inside another, up to the one of all problems.

Each subject decides its own message and details. A code may be stated; otherwise, or if the
stated one counts as nothing, the subject has a code of its own.

## Results

* `get?_logFields_error` — the log fields of a problem hold its message, whatever its details.
-/

namespace EventLoom

open Text

-- ---------------------------------------------------------------------------
-- Families and subjects
-- ---------------------------------------------------------------------------

/-- The families whose problems say of themselves what they are about. -/
inductive Problem.Family where
  | general
  | domain
  | invariant
  | mapping
  | application
  | configuration
  | bulkheadFull
  deriving DecidableEq, Repr

namespace Problem.Family

/-- All families. -/
def all : List Family :=
  [.general, .domain, .invariant, .mapping, .application, .configuration, .bulkheadFull]

/-- The labels of the family and of those around it, from the inside out. -/
def labels : Family → List Text
  | .general => ["BaseError".toList]
  | .domain => ["DomainError".toList, "BaseError".toList]
  | .invariant => ["InvariantViolationError".toList, "DomainError".toList, "BaseError".toList]
  | .mapping => ["MappingError".toList, "DomainError".toList, "BaseError".toList]
  | .application => ["ApplicationError".toList, "BaseError".toList]
  | .configuration =>
    ["ConfigurationError".toList, "ApplicationError".toList, "BaseError".toList]
  | .bulkheadFull => ["BulkheadFullError".toList, "ApplicationError".toList, "BaseError".toList]

/-- The code of a problem that states none. -/
def code : Family → Text
  | .general => "base_error".toList
  | .domain => "domain_error".toList
  | .invariant => "invariant_violation".toList
  | .mapping => "mapping_error".toList
  | .application => "application_error".toList
  | .configuration => "configuration_error".toList
  | .bulkheadFull => "bulkhead_full".toList

/-- The family with a given innermost label. -/
def ofLabel? (label : Text) : Option Family := all.find? fun f => f.labels.head? = some label

end Problem.Family

/-- What a problem is about. -/
inductive Problem.Subject where
  /-- A problem that brings its own message and details. -/
  | plain (family : Family) (message : Value) (detail : Entries)
  /-- A placeholder that is opened at `position` and never closed. -/
  | malformedTemplate (position : Value)
  /-- A placeholder key that the stream does not have. -/
  | unknownProperty (property streamId : Value)
  /-- An event that does not fill the placeholder `key`, which stands for position `index`. -/
  | render (message key index : Value)
  /-- A required setting that is absent. -/
  | missingSetting (name : Value)
  /-- A setting whose value cannot be used. -/
  | invalidSetting (name value reason : Value)

namespace Problem.Subject

/-- The family that the subject belongs to. -/
def family : Subject → Family
  | .plain f _ _ => f
  | .malformedTemplate _ | .unknownProperty .. | .render .. => .mapping
  | .missingSetting _ | .invalidSetting .. => .configuration

/-- The labels of the subject and of the families around it, from the inside out. -/
def labels (s : Subject) : List Text :=
  match s with
  | .plain f _ _ => f.labels
  | .malformedTemplate _ => "MalformedTemplateError".toList :: s.family.labels
  | .unknownProperty .. => "SchemaValidationError".toList :: s.family.labels
  | .render .. => "RenderError".toList :: s.family.labels
  | .missingSetting _ => "MissingRequiredSettingError".toList :: s.family.labels
  | .invalidSetting .. => "InvalidSettingValueError".toList :: s.family.labels

/-- The code of a problem that states none. -/
def code : Subject → Text
  | .plain f _ _ => f.code
  | .malformedTemplate _ => "malformed_template".toList
  | .unknownProperty .. => "schema_validation_error".toList
  | .render .. => "render_error".toList
  | .missingSetting _ => "missing_required_setting".toList
  | .invalidSetting .. => "invalid_setting_value".toList

/-- The message for the reader. -/
def message : Subject → Value
  | .plain _ message _ => message
  | .malformedTemplate position =>
    .text ("Found template attribute prefix '\x7b\x7b' at index ".toList ++ position.plain
      ++ (" without corresponding postfix '\x7d\x7d'. "
        ++ "Please verify your JSON template.").toList)
  | .unknownProperty property _ =>
    .text ("Property ".toList ++ property.plain
      ++ " is not in the input stream definition.".toList)
  | .render message _ _ => message
  | .missingSetting name =>
    .text ("Required setting '".toList ++ name.plain ++ "' is missing".toList)
  | .invalidSetting name value reason =>
    .text ("Setting '".toList ++ name.plain ++ "' has invalid value ".toList ++ value.quoted
      ++ ": ".toList ++ reason.plain)

/-- The details by name. -/
def detail : Subject → Entries
  | .plain _ _ detail => detail
  | .malformedTemplate position => [("position".toList, position)]
  | .unknownProperty property streamId =>
    [("property".toList, property), ("stream_id".toList, streamId)]
  | .render _ key index => [("key".toList, key), ("index".toList, index)]
  | .missingSetting name => [("setting".toList, name)]
  | .invalidSetting name value reason =>
    [("setting".toList, name), ("value".toList, .text value.quoted), ("reason".toList, reason)]

/-- The particulars by name, as they were given. -/
def particulars : Subject → Table Value
  | .plain .. => []
  | .malformedTemplate position => [("position".toList, position)]
  | .unknownProperty property streamId =>
    [("property".toList, property), ("stream_id".toList, streamId)]
  | .render _ key index => [("key".toList, key), ("index".toList, index)]
  | .missingSetting name => [("setting_name".toList, name)]
  | .invalidSetting name value reason =>
    [("setting_name".toList, name), ("value".toList, value), ("reason".toList, reason)]

end Problem.Subject

-- ---------------------------------------------------------------------------
-- Problems
-- ---------------------------------------------------------------------------

/-- A problem with its stated code, if any, and a description of what caused it, if anything. -/
structure Problem where
  subject : Problem.Subject
  statedCode : Value := .null
  cause : Option Text := none

namespace Problem

/-- A problem that brings its own message and details. -/
def ofMessage (family : Family) (message : Text) (detail : Entries) : Problem :=
  ⟨.plain family (.text message) detail, .null, none⟩

/-- The identifying code. -/
def code (p : Problem) : Value :=
  if p.statedCode.isTruthy then p.statedCode else .text p.subject.code

/-- The message for the reader. -/
def message (p : Problem) : Value := p.subject.message

/-- The details by name. -/
def detail (p : Problem) : Entries := p.subject.detail

/-- The labels of the problem, from the inside out. -/
def labels (p : Problem) : List Text := p.subject.labels

/-- The problem on one line, for use inside another text. -/
def describe (p : Problem) : Text :=
  (p.labels.head?.getD []) ++ "(code=".toList ++ p.code.quoted ++ ", message=".toList
    ++ p.message.quoted ++ [')']

/-- Everything that is told of the problem, by name; a cause only if there is one. -/
def entries (p : Problem) : Entries :=
  let told : Entries :=
    [("code".toList, p.code), ("message".toList, p.message), ("detail".toList, .dict p.detail)]
  told ++ (p.cause.map fun c => (Key.text "cause".toList, Value.text c)).toList

/-- The problem as a JSON text. -/
def text (p : Problem) : Text := Json.write .spaced (.dict p.entries)

/-- The fields of a log entry about the problem: its details, its code and its message. Where a
detail has the name of one of the last two, it gives way and leaves its place. -/
def logFields (p : Problem) : Entries :=
  Table.put (.text "error".toList) p.message (Table.put (.text "reason".toList) p.code p.detail)

theorem get?_logFields_error (p : Problem) :
    Table.get? p.logFields (.text "error".toList) = some p.message := by
  simp [logFields, Table.get?_put]

end Problem

end EventLoom
