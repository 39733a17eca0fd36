import EventLoom.Value.Basic

/-!
# What every class of settings has

Some names every class of settings has for itself, whatever its fields are: the lead of its keys,
the maker of keys, the checks, what is called when settings are made, and what the class is asked
for itself. Under each of them stands a thing of some kind (`OwnThing`). A field that has such a
name and states no default has this thing as its default, which need not be a value. A default
that is stated takes the thing's place, unless the class itself is asked.

The names, and the numbers under some of them, are those that version 3.11 of the system has for a
class. Other versions have a few more names and other numbers.
-/

namespace EventLoom.Settings

/-- What a class has under a name of its own. -/
inductive OwnThing where
  | lead
  | value (v : Value)
  /-- A table of the named kind. -/
  | table (kind : Text)
  /-- The number that stands for what is known of the class. -/
  | flags
  /-- What is called to make settings, for all of them alike. -/
  | maker
  /-- What is called to look at settings. -/
  | check
  /-- What cannot be told: what is called for something else, and what is no value. -/
  | other

/-- What stands for a setting that the environment does not hold. -/
inductive Default where
  /-- A value that the class has under the field's name. -/
  | value (v : Value)
  /-- A value that is made anew for all settings, so the class itself does not have it. -/
  | made (v : Value)
  /-- What every class has under the field's name and what is no value. -/
  | own
  /-- The same, though the field states a default. -/
  | kept

/-- The default that a field states. -/
def Default.ofValue : Value → Default
  | .list items => .made (.list items)
  | v => .value v

/-- The value that a default gives. -/
def Default.value? : Default → Option Value
  | .value v | .made v => some v
  | .own | .kept => none

-- ---------------------------------------------------------------------------
-- Names
-- ---------------------------------------------------------------------------

/-- The name of the lead. -/
def leadName : Text := "_prefix".toList

/-- The name of a class of settings. -/
def settingsName : Text := "Custom".toList

/-- The name under which a class has its name with what it stands in. -/
def fullName : Text := "__qualname__".toList

/-- The name under which a class has the places of its settings. -/
def placesName : Text := "__slots__".toList

/-- The name under which settings have their class. -/
def kindName : Text := "__class__".toList

/-- The name under which settings have those that look at them. -/
def watchersName : Text := "__weakref__".toList

/-- The name under which a class has the module that it stands in. -/
def moduleName : Text := "__module__".toList

/-- The name under which a class is handed to its methods while it is made. -/
def cellName : Text := "__classcell__".toList

/-- The name of a constant that nothing can be put in the place of. -/
def constantName : Text := "__debug__".toList

/-- The name of the maker of keys. -/
def keyName : Text := "env_key".toList

/-- The name of what is called first when settings are made. -/
def newName : Text := "__new__".toList

/-- What is called before a setting is written, the first call first. -/
def makerNames : List Text := [newName, "__init__".toList, "__setattr__".toList]

/-- The name of what is called whenever something is asked of settings. -/
def readerName : Text := "__getattribute__".toList

/-- The checks, the outer one first. -/
def checkNames : List Text := ["__post_init__".toList, "_validate".toList]

/-- The other methods. -/
def methodNames : List Text := [
  keyName, "mro".toList, "__call__".toList, "__delattr__".toList, "__dir__".toList,
  "__eq__".toList, "__format__".toList, "__ge__".toList, "__getstate__".toList, "__gt__".toList,
  "__init_subclass__".toList, "__instancecheck__".toList, "__le__".toList, "__lt__".toList,
  "__ne__".toList, "__or__".toList, "__prepare__".toList, "__reduce__".toList,
  "__reduce_ex__".toList, "__repr__".toList, "__ror__".toList, "__sizeof__".toList,
  "__str__".toList, "__subclasscheck__".toList, "__subclasses__".toList,
  "__subclasshook__".toList]

/-- What a class is asked for itself, so that no default takes its place. -/
def firmThings : List (Text × OwnThing) := [
  ("__name__".toList, .value (.text settingsName)), ("__text_signature__".toList, .value .null),
  ("__basicsize__".toList, .value (.int 24)), ("__itemsize__".toList, .value (.int 0)),
  ("__dictoffset__".toList, .value (.int (-48))),
  ("__weakrefoffset__".toList, .value (.int 16)), ("__flags__".toList, .flags),
  ("__annotations__".toList, .table "dict".toList),
  ("__dict__".toList, .table "mappingproxy".toList), (kindName, .other),
  ("__base__".toList, .other), ("__bases__".toList, .other), ("__mro__".toList, .other),
  ("__dataclass_params__".toList, .other)]

/-- What else is not called. -/
def looseThings : List (Text × OwnThing) := [
  (leadName, .lead), ("__doc__".toList, .value .null), ("__hash__".toList, .value .null),
  ("__match_args__".toList, .value (.tuple [])), (fullName, .value (.text settingsName)),
  (moduleName, .value (.text "types".toList)), (watchersName, .other),
  ("__dataclass_fields__".toList, .table "dict".toList)]

/-- What a class has under a name, if the name is its own. -/
def ownThing? (name : Text) : Option OwnThing :=
  if makerNames.contains name || name = readerName then some .maker
  else if checkNames.contains name then some .check
  else if methodNames.contains name then some .other
  else firmThings.lookup name <|> looseThings.lookup name

-- ---------------------------------------------------------------------------
-- Defaults
-- ---------------------------------------------------------------------------

/-- The names that a class answers without looking at what it has. -/
def answeredNames : List Text := [
  "__abstractmethods__".toList, "__annotations__".toList, "__base__".toList,
  "__bases__".toList, "__basicsize__".toList, kindName, "__dict__".toList,
  "__dictoffset__".toList, "__doc__".toList, "__flags__".toList, "__itemsize__".toList,
  moduleName, "__mro__".toList, "__name__".toList, fullName, "__text_signature__".toList,
  "__weakrefoffset__".toList]

/-- What is known of a class once the names `seen` have been asked for. The first look at what it
has leaves a mark. -/
def flagsAfter (seen : List Text) : Int :=
  if seen.all answeredNames.contains then 22032 else 546320

/-- The thing as a default in a class with the given lead, behind fields with the names `seen`. -/
def OwnThing.default (lead : Value) (seen : List Text) : OwnThing → Default
  | .lead => .value lead
  | .value v => .value v
  | .flags => .value (.int (flagsAfter seen))
  | _ => .own

/-- The default of a field without one. -/
def ownDefault? (lead : Value) (seen : List Text) (name : Text) : Option Default :=
  (ownThing? name).map (OwnThing.default lead seen)

/-- The default of a field that states one. -/
def statedDefault (lead : Value) (seen : List Text) (name : Text) (v : Value) : Default :=
  match (firmThings.lookup name).map (OwnThing.default lead seen) with
  | some .own => .kept
  | some firm => firm
  | none => .ofValue v

end EventLoom.Settings
