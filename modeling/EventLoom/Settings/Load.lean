import EventLoom.Settings.Class
import EventLoom.Settings.Hint

/-!
# Loading settings

The fields of a class of settings are read from an environment, in order, each under its own key.
A field that is absent has its default; one without a default is required.

The first field in order that is required and absent, or that cannot be read as its hint asks,
decides. That a number cannot be read is reported as a problem of the setting; that something is
done with a value that cannot be done with values of its kind is passed on as it is. Only when all
fields have values are settings made of them. If the class then turns a value down, for what it says
or for what it is, this is reported as a problem of configuration, in the words that the class has
for it; whatever else it reports, a problem of configuration of its own included, is passed on.

## Results

* `holdings_congr` — what is loaded depends on nothing in the environment but the fields' keys.
-/

namespace EventLoom.Settings

open Text

/-- Report what is wrong with a setting. -/
def reportReading (key : Text) (raw : Value) (fault : Fault) : Fault :=
  match fault.refusal?, fault.message? with
  | some .ofValue, some reason => .invalidSetting key raw reason
  | _, _ => fault

/-- What the environment says of a key; null is nothing. -/
def stated? (environment : Table Value) (key : Text) : Option Value :=
  match Table.get? environment key with
  | none | some .null => none
  | some raw => some raw

/-- A variable of the system has a text for its value. Neither the name nor the value can hold the
character that ends them, a name goes no further than an equals sign, and it is not empty. -/
def checkVariable (name : Text) (value : Value) : Except Fault Unit :=
  match value with
  | .text t =>
    if (name ++ t).contains '\x00' then .error .embeddedNul
    else if name.contains '=' then .error .illegalVariable
    else if name.isEmpty then .error (.systemFailed .invalidArgument)
    else .ok ()
  | _ => .error .wrongType

/-- An environment that is made of variables of the system. -/
def systemEnvironment (held : Table Value) : Except Fault (Table Value) := do
  held.forM fun (name, value) => checkVariable name value
  return held

/-- The value of one field, or none if it keeps what every class has under its name. -/
def fieldValue (lead : Text) (environment : Table Value) (field : Field) :
    Except Fault (Option Value) :=
  let key := envKey lead field.name
  match stated? environment key, field.default? with
  | none, none => .error (.missingSetting key)
  | none, some default => .ok default.value?
  | some raw, _ => ((decode field.hint raw).mapError (reportReading key raw)).map some

/-- Settings that are made: what each field holds, by name. This is a value, or may be none if the
field keeps what the class has under its name. -/
abbrev Made := Table (Option Value)

namespace Made

/-- The values that the fields hold, by name. -/
def values (made : Made) : Table Value :=
  made.filterMap fun (name, v?) => v?.map fun v => (name, v)

/-- Settings that hold nothing but values. -/
def ofValues (table : Table Value) : Made := table.map fun (name, v) => (name, some v)

theorem values_ofValues (table : Table Value) : (ofValues table).values = table := by
  induction table with
  | nil => rfl
  | cons entry rest ih => exact congrArg (entry :: ·) ih

end Made

/-- What the fields hold, by name. -/
def holdings (lead : Text) (environment : Table Value) : List Field → Except Fault Made
  | [] => .ok []
  | field :: rest => do
    let v? ← fieldValue lead environment field
    let more ← holdings lead environment rest
    return (field.name, v?) :: more

/-- Report what a class turns down as a problem of configuration. What the class says of it becomes
a part of the message. -/
def reportRefusal (fault : Fault) : Fault :=
  match fault.refusal? with
  | some _ => fault.reason.telling (.settingsFailed fault)
  | none => fault

namespace SettingsClass

/-- Why settings cannot be made with values that are not the defaults. -/
def argumentReason : Text :=
  "object.__new__() takes exactly one argument (the type to instantiate)".toList

/-- Make settings with the values in a table, some of which are from the environment if
`isStated`. -/
def make (c : SettingsClass) (table : Table Value) (isStated : Bool) : Except Fault Unit :=
  if isStated && !c.takesValues then .error (.refused .ofType (.text argumentReason))
  else c.check table

/-- The settings that an environment gives, as the class accepts them. -/
def load (c : SettingsClass) (environment : Table Value) : Except Fault Made := do
  if !c.hasKeys then throw .wrongType
  let made ← holdings c.lead environment c.fields
  let isStated := c.envKeys.any fun key => (stated? environment key).isSome
  match c.make made.values isStated with
  | .ok () => return made
  | .error fault => throw (reportRefusal fault)

end SettingsClass

theorem holdings_congr {lead : Text} {env env' : Table Value} {fields : List Field}
    (h : ∀ field ∈ fields,
      Table.get? env (envKey lead field.name) = Table.get? env' (envKey lead field.name)) :
    holdings lead env fields = holdings lead env' fields := by
  induction fields with
  | nil => rfl
  | cons field rest ih =>
    have hField : fieldValue lead env field = fieldValue lead env' field := by
      simp only [fieldValue, stated?, h field (by simp)]
    have hRest := ih fun other hOther => h other (by simp [hOther])
    simp only [holdings, hField, hRest]

end EventLoom.Settings
