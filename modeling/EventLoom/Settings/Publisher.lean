import EventLoom.Log.Setup
import EventLoom.Settings.Load
import EventLoom.Template.Render

/-!
# Settings of a publisher

A publisher is set up with the size of its pool of workers, the time that an event may wait for a
worker, the policy for empty events, and the level and form of its log. The values may come from
anywhere and are of any kind; what is asked of them is that there is at least one worker, that a
time, if there is one, is not below zero, and that policy and level have names that are known.

A binary number that is no number is not below anything; a decimal one cannot be compared at all.
A setting that is turned down is told with its value, if no integer in it is too long for that.
-/

namespace EventLoom

open Text Settings

/-- The settings of a publisher. -/
structure PublisherSettings where
  workers : Value := .int 4
  timeout : Value := .null
  emptyPolicy : Value := .text (EmptyPolicy.name .null)
  logLevel : Value := .text "INFO".toList
  jsonLogs : Value := .bool true

namespace PublisherSettings

/-- The lead of the settings in the environment. -/
def lead : Text := "EVENTMAP".toList

def workersName : Text := "worker_pool_size".toList
def timeoutName : Text := "admission_timeout".toList
def emptyPolicyName : Text := "empty_event_policy".toList
def logLevelName : Text := "log_level".toList
def jsonLogsName : Text := "json_logs".toList

/-- The settings by name. -/
def toTable (s : PublisherSettings) : Table Value :=
  [(workersName, s.workers), (timeoutName, s.timeout), (emptyPolicyName, s.emptyPolicy),
    (logLevelName, s.logLevel), (jsonLogsName, s.jsonLogs)]

/-- The settings with the hints that they are read by. -/
def fields : List Field :=
  let defaults : PublisherSettings := {}
  [⟨workersName, "int".toList, some (.value defaults.workers)⟩,
    ⟨timeoutName, "float | None".toList, some (.value defaults.timeout)⟩,
    ⟨emptyPolicyName, "str".toList, some (.value defaults.emptyPolicy)⟩,
    ⟨logLevelName, "str".toList, some (.value defaults.logLevel)⟩,
    ⟨jsonLogsName, "bool".toList, some (.value defaults.jsonLogs)⟩]

/-- The levels that the log may be set to. -/
def knownLevels : List Text :=
  ["DEBUG".toList, "INFO".toList, "WARNING".toList, "ERROR".toList, "CRITICAL".toList]

/-- Why a policy is not accepted. -/
def policyReason : Text :=
  "expected one of ".toList ++ (Value.list (EmptyPolicy.names.map .text)).quoted

/-- Turn a setting down. -/
def turnDown (name : Text) (v : Value) (reason : Text) : Except Fault Unit :=
  .error (v.telling (.invalidSetting name v reason))

theorem turnDown_of_hasText {v : Value} (h : v.hasText = true) (name reason : Text) :
    turnDown name v reason = .error (.invalidSetting name v reason) := by
  rw [turnDown, Value.telling_of_hasText h]

/-- Why a value that is no number is not compared with one. -/
def orderReason (v : Value) : Text :=
  "'<' not supported between instances of '".toList ++ v.className ++ "' and 'int'".toList

/-- Whether a setting is below a bound. What is no number is turned down for what it is. -/
def isBelow (v : Value) (bound : Int) : Except Fault Bool :=
  (v.isBelow bound).mapError fun
    | .wrongType => .refused .ofType (.text (orderReason v))
    | fault => fault

/-- There has to be a worker. -/
def checkWorkers (s : PublisherSettings) : Except Fault Unit := do
  if ← isBelow s.workers 1 then turnDown workersName s.workers "must be >= 1".toList

/-- A time must not be below zero. -/
def checkTimeout (s : PublisherSettings) : Except Fault Unit :=
  match s.timeout with
  | .null => .ok ()
  | v => do
    if ← isBelow v 0 then turnDown timeoutName v "must be >= 0".toList

/-- The policy that the settings name, if they name one. -/
def emptyPolicy? (s : PublisherSettings) : Option EmptyPolicy :=
  s.emptyPolicy.asText?.bind EmptyPolicy.ofName?

/-- The policy has to be a known one. -/
def checkEmptyPolicy (s : PublisherSettings) : Except Fault Unit :=
  match s.emptyPolicy? with
  | some _ => .ok ()
  | none => turnDown emptyPolicyName s.emptyPolicy policyReason

/-- The level has to be a known one. A byte string can be put in capitals as a text can, but is
no level. -/
def checkLogLevel (s : PublisherSettings) : Except Fault Unit :=
  let unknown := turnDown logLevelName s.logLevel "unknown log level".toList
  match s.logLevel with
  | .text t => if knownLevels.contains (upper t) then .ok () else unknown
  | .bytes _ => unknown
  | _ => .error .noSuchOperation

/-- Accept the settings, or say what is wrong with the first that cannot be used. -/
def check (s : PublisherSettings) : Except Fault Unit := do
  s.checkWorkers
  s.checkTimeout
  s.checkEmptyPolicy
  s.checkLogLevel

/-- The settings with the given names, and defaults for the rest. -/
def ofTable (table : Table Value) : Except Fault PublisherSettings :=
  let get (name : Text) (default : Value) := (Table.get? table name).getD default
  let defaults : PublisherSettings := {}
  let known := Table.keys defaults.toTable
  if (Table.keys table).all fun name => known.contains name then do
    let s : PublisherSettings :=
      ⟨get workersName defaults.workers, get timeoutName defaults.timeout,
        get emptyPolicyName defaults.emptyPolicy, get logLevelName defaults.logLevel,
        get jsonLogsName defaults.jsonLogs⟩
    s.check
    return s
  else .error .wrongType

/-- The class of these settings. -/
def settingsClass : SettingsClass := {
  lead := lead
  fields := fields
  check := fun table => do discard (ofTable table) }

/-- The settings that an environment holds. -/
def ofEnvironment (environment : Table Value) : Except Fault PublisherSettings := do
  ofTable (← settingsClass.load environment).values

/-- Set the log up as the settings say. -/
def logSetup (s : PublisherSettings) : Except Fault Log.Setup :=
  Log.Setup.ofLevel s.logLevel s.jsonLogs.isTruthy

end PublisherSettings

end EventLoom
