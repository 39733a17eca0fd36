import EventLoom.Template.Compile
import EventLoom.Value.Arithmetic

/-!
# Rendering events

An event is a sequence of values, and a table says at which position of it each placeholder key
is found. Rendering goes through the template once and puts the text of a value in place of each
placeholder; what is put in is not searched for placeholders again.

A text is put in between double quotes, and not escaped. An event without any values renders
every placeholder as null, or is refused, as the policy says. An event that ends before a position
is reported with that position, and if this is an integer too long to be written, with nothing but
that.
-/

namespace EventLoom

open Text

-- ---------------------------------------------------------------------------
-- Empty events
-- ---------------------------------------------------------------------------

/-- What becomes of the placeholders when an event has no values. -/
inductive EmptyPolicy where
  | null
  | fail
  deriving DecidableEq, Repr

namespace EmptyPolicy

/-- The name of the policy. -/
def name : EmptyPolicy → Text
  | .null => "null".toList
  | .fail => "fail".toList

/-- The names of all policies in alphabetical order. -/
def names : List Text := [name .fail, name .null]

/-- The policy of a given name. -/
def ofName? (t : Text) : Option EmptyPolicy :=
  if t = name .null then some .null else if t = name .fail then some .fail else none

/-- The policy that a value names. -/
def ofValue (v : Value) : Except Fault EmptyPolicy :=
  match v.asText?.bind ofName? with
  | some policy => .ok policy
  | none => .error (.unknownPolicy v)

theorem ofName?_name (p : EmptyPolicy) : ofName? p.name = some p := by
  cases p <;> decide

end EmptyPolicy

-- ---------------------------------------------------------------------------
-- Placeholders
-- ---------------------------------------------------------------------------

/-- The text that stands for no value. -/
def nullToken : Text := "null".toList

/-- The text that is put in place of a placeholder. -/
def formatValue : Value → Except Fault Text
  | .text t => .ok ('"' :: t ++ ['"'])
  | .null => .ok nullToken
  | .bool b => .ok (if b then "true".toList else "false".toList)
  | v => v.written

/-- The text for the placeholder `key` in an event of `length` values. -/
def fillPlaceholder (values : Value) (length : Nat) (positions : Entries) (policy : EmptyPolicy)
    (key : Text) : Except Fault Text :=
  if length = 0 then
    match policy with
    | .null => .ok nullToken
    | .fail => .error (.emptyEvent key)
  else
    match Table.get? positions (.text key) with
    | none | some .null => .error (.unboundKey key)
    | some position => do
      if ← position.isBelow length then values.item position >>= formatValue
      else throw (position.telling (.shortEvent length key position))

namespace Template

/-- The rest of a rendered text, behind the first literal. -/
def renderHoles (fill : Text → Except Fault Text) : List Hole → Except Fault Text
  | [] => .ok []
  | hole :: rest => do
    let filled ← fill hole.key
    let more ← renderHoles fill rest
    return filled ++ hole.tail ++ more

/-- Render the values of an event. -/
def render (t : Template) (values : Value) (positions : Entries) (policy : EmptyPolicy) :
    Except Fault Text :=
  match values.length? with
  | none => .error .wrongType
  | some length => do
    let rest ← renderHoles (fillPlaceholder values length positions policy) t.holes
    return t.lead ++ rest

/-- Check that every key has a position. The first one that has none is reported, with the
stream that was asked for it. -/
def validate (t : Template) (positions : Entries) (streamId : Value) : Except Fault Unit :=
  match t.keys.find? fun key => (Table.get? positions (.text key)).isNone with
  | some key => .error (.unknownKey key streamId)
  | none => .ok ()

end Template

end EventLoom
