import EventLoom.Fault
import EventLoom.Settings.OwnThing
import EventLoom.Text.Case
import EventLoom.Text.Identifier
import EventLoom.Text.Normal

/-!
# Classes of settings

A class of settings lists its fields in order. A field is read from the environment under a key
that is made of the class's lead and the field's name, in capitals and without underscores in
front.

Not every list of fields makes a class. The names have to be identifiers that are not reserved,
each used once. No default may be a list or a table that all settings of the class would share; a
list that is stated is made anew each time. And the names have to be normal, so that a field is
found however its name has been put in. These are looked at in this order.

A field may have a name that every class has for itself (`OwnThing`). If it states no default,
then what the class has there is its default; and if it does, the default stands in that place. So
the default of such a field becomes the lead; a class that has a value for a maker of keys cannot
be loaded; and a value in the place of what is to be called turns all settings down.
-/

namespace EventLoom.Settings

open Text

/-- A setting with its hint and its default, if it has one. -/
structure Field where
  name : Text
  hint : Text
  default? : Option Default

/-- A class of settings, which may turn down the values of its fields. -/
structure SettingsClass where
  lead : Text
  fields : List Field
  check : Table Value → Except Fault Unit
  /-- Whether the class can make the keys of its fields. -/
  hasKeys : Bool := true
  /-- Whether settings can be made with values that are not the defaults. -/
  takesValues : Bool := true

/-- The key under which the environment holds a field. -/
def envKey (lead name : Text) : Text := (upper (lead ++ '_' :: name)).dropWhile (· = '_')

/-- A field as it is stated, with a name that may turn out to be none. -/
structure FieldDraft where
  name : Value
  hint : Text
  default? : Option Value
  /-- Whether the hint is written, and not the hint of a type. -/
  isWritten : Bool := true

/-- A field of a class with the given lead, behind fields with the names `seen`. -/
def FieldDraft.named (draft : FieldDraft) (lead : Value) (seen : List Text) (name : Text) : Field :=
  ⟨name, draft.hint,
    match draft.default? with
    | some v => some (statedDefault lead seen name v)
    | none => ownDefault? lead seen name⟩

-- ---------------------------------------------------------------------------
-- Names
-- ---------------------------------------------------------------------------

/-- The identifiers that cannot be names. -/
def reservedNames : List Text := [
  "False".toList, "None".toList, "True".toList, "and".toList, "as".toList, "assert".toList,
  "async".toList, "await".toList, "break".toList, "class".toList, "continue".toList,
  "def".toList, "del".toList, "elif".toList, "else".toList, "except".toList, "finally".toList,
  "for".toList, "from".toList, "global".toList, "if".toList, "import".toList, "in".toList,
  "is".toList, "lambda".toList, "nonlocal".toList, "not".toList, "or".toList, "pass".toList,
  "raise".toList, "return".toList, "try".toList, "while".toList, "with".toList, "yield".toList]

/-- Whether the text can be the name of a field. -/
def isFieldName (name : Text) : Bool := isIdentifier name && !reservedNames.contains name

/-- The fields of drafts in a class with the given lead, behind fields with the names `seen`. -/
def fieldsOf (lead : Value) (seen : List Text) : List FieldDraft → Except Fault (List Field)
  | [] => .ok []
  | draft :: rest =>
    match draft.name with
    | .text name => do
      if isFieldName name && !seen.contains name then
        return draft.named lead seen name :: (← fieldsOf lead (name :: seen) rest)
      else throw .wrongType
    | _ => .error .wrongType

/-- Whether a draft states a default under one of the names. -/
def FieldDraft.statesAny (names : List Text) (draft : FieldDraft) : Bool :=
  draft.name.asText?.any names.contains && draft.default?.isSome

/-- The names under which a class needs something while it is made. -/
def neededNames : List Text := [cellName, fullName, placesName]

/-- Refuse defaults in the place of what a class needs. The module is where the names in a written
hint are looked up, so it is needed if there is one. -/
def checkDrafts (drafts : List FieldDraft) : Except Fault Unit :=
  if drafts.any (FieldDraft.statesAny neededNames) then .error .wrongType
  else if drafts.any (FieldDraft.statesAny [moduleName]) && drafts.any FieldDraft.isWritten then
    .error .noSuchOperation
  else .ok ()

/-- The kind of a default that all settings would share, if it is one. -/
def sharedKind? (field : Field) : Option Text :=
  match ownThing? field.name, field.default? with
  | some (.table kind), some .own | some (.table kind), some .kept => some kind
  | _, some (.value v) =>
    match v with
    | .list _ | .dict _ => some v.className
    | _ => none
  | _, _ => none

/-- Refuse a default that all settings would share. -/
def checkDefault (field : Field) : Except Fault Unit :=
  match sharedKind? field with
  | some kind => .error (.sharedDefault kind field.name)
  | none => .ok ()

/-- The names under which a class cannot do with something that is made anew. -/
def presentNames : List Text := [moduleName, "__doc__".toList]

/-- Refuse a default that is made anew where the class cannot do with it. -/
def checkPresent (field : Field) : Except Fault Unit :=
  match field.default? with
  | some (.made _) => if presentNames.contains field.name then .error .wrongType else .ok ()
  | _ => .ok ()

/-- Refuse the name of a constant. -/
def checkConstant (field : Field) : Except Fault Unit :=
  if field.name = constantName then .error (.constantName field.name) else .ok ()

/-- Refuse a name that can be put in otherwise. -/
def checkSpelling (field : Field) : Except Fault Unit :=
  if isNormal field.name then .ok () else .error .wrongType

-- ---------------------------------------------------------------------------
-- What stands in the place of what every class has
-- ---------------------------------------------------------------------------

/-- The field with a name, if there is one. -/
def field? (fields : List Field) (name : Text) : Option Field :=
  fields.find? fun field => field.name = name

/-- The value that a class has under a name from the default of a field. -/
def classValue? (fields : List Field) (name : Text) : Option Value :=
  match (field? fields name).bind Field.default? with
  | some (.value v) => some v
  | _ => none

/-- The lead of a class with these fields. -/
def leadOf (lead : Value) (fields : List Field) : Text :=
  match field? fields leadName with
  | none => lead.plain
  | some _ => ((classValue? fields leadName).map Value.plain).getD []

/-- Why a value cannot be called. -/
def callReason (v : Value) : Text := '\'' :: v.className ++ "' object is not callable".toList

/-- Why a check cannot be called by itself. It is a setting, and does not know of which settings. -/
def looseReason (name : Text) : Text :=
  "Settings.".toList ++ name ++ "() missing 1 required positional argument: 'self'".toList

/-- Why settings cannot have a class of their own. -/
def classReason : Option Value → Text
  | some v => "__class__ must be set to a class, not '".toList ++ v.className ++ "' object".toList
  | none =>
    "__class__ assignment only supported for mutable types or ModuleType subclasses".toList

/-- Whether a class has a field under a name that is made anew. -/
def isMade (fields : List Field) (name : Text) : Bool :=
  match (field? fields name).bind Field.default? with
  | some (.made _) => true
  | _ => false

/-- Why a field cannot be written, if so: a class of their own and those that look at them are not
given to settings, unless the class has something else under the name. -/
def writeFault? (table : Table Value) (field : Field) : Option Fault :=
  if field.name = kindName then
    match field.default? with
    | some .own => some (.refused .ofType (.text (classReason (Table.get? table kindName))))
    | _ => none
  else if field.name = watchersName then
    match field.default? with
    | some (.value _) => none
    | _ => some .noSuchOperation
  else none

/-- Why a check cannot be called, if so. -/
def checkFault? (fields : List Field) (table : Table Value) : Option Fault :=
  (checkNames.find? fun name => (field? fields name).isSome).map fun name =>
    .refused .ofType (.text (((Table.get? table name).map callReason).getD (looseReason name)))

/-- Why what is called under one of the names for all settings alike cannot be called, if so. -/
def makerFault? (fields : List Field) (names : List Text) : Option Fault :=
  (names.findSome? (classValue? fields)).map fun v => .refused .ofType (.text (callReason v))

/-- Refuse values in the place of what is called, or of what cannot be written. -/
def checkOwn (fields : List Field) (table : Table Value) : Except Fault Unit :=
  match makerFault? fields makerNames <|> fields.findSome? (writeFault? table)
      <|> makerFault? fields [readerName] <|> checkFault? fields table with
  | some fault => .error fault
  | none => .ok ()

-- ---------------------------------------------------------------------------
-- Declaration
-- ---------------------------------------------------------------------------

namespace SettingsClass

/-- The class that a lead, drafts of fields and a check make. -/
def declare (lead : Value) (drafts : List FieldDraft) (check : Table Value → Except Fault Unit) :
    Except Fault SettingsClass := do
  let fields ← fieldsOf lead [] drafts
  checkDrafts drafts
  fields.forM checkDefault
  fields.forM checkPresent
  fields.forM checkConstant
  fields.forM checkSpelling
  return {
    lead := leadOf lead fields
    fields := fields
    check := fun table => do
      checkOwn fields table
      check table
    hasKeys := (classValue? fields keyName).isNone
    takesValues := !isMade fields newName }

/-- The keys under which the environment holds the fields. -/
def envKeys (c : SettingsClass) : List Text := c.fields.map fun field => envKey c.lead field.name

end SettingsClass

end EventLoom.Settings
