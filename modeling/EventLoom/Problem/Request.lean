import EventLoom.Value.Arithmetic

/-!
# Problems on request

A caller may ask for a problem by its label and give the particulars, some in order and some by
name. Every label has its own particulars; a request with too few, too many or doubled ones is
refused. The same form describes a cause from outside this library, which is not a problem but
has a label and particulars too.
-/

namespace EventLoom.Problem

open Text

/-- A request for a problem. -/
structure Request where
  label : Text
  ordered : List Value := []
  named : Table Value := []
  cause : Option Text := none

namespace Request

/-- Whether all particulars given by name are among `names`. -/
def namesWithin (r : Request) (names : List Text) : Bool :=
  (Table.keys r.named).all fun key => names.contains key

/-- The stated code. -/
def code (r : Request) : Value := (Table.get? r.named "code".toList).getD .null

/-- The stated details; anything that counts as nothing means that there are none. -/
def detail? (r : Request) : Option Entries :=
  match Table.get? r.named "detail".toList with
  | none => some []
  | some (.dict entries) => some entries
  | some v => if v.isTruthy then none else some []

/-- Two particulars, in order as far as they go and by name from there on. -/
def pair? (r : Request) (first second : Text) : Option (Value × Value) :=
  match r.ordered, Table.get? r.named first, Table.get? r.named second with
  | [], some a, some b => some (a, b)
  | [a], none, some b => some (a, b)
  | [a, b], none, none => some (a, b)
  | _, _, _ => none

/-- The subject of a problem that brings its own message. -/
def plainSubject? (r : Request) (family : Family) : Option Subject :=
  match r.ordered, r.detail?, r.namesWithin ["code".toList, "detail".toList] with
  | [message], some detail, true => some (.plain family message detail)
  | _, _, _ => none

/-- The subject of a problem that makes its message from its particulars. -/
def particularSubject? (r : Request) : Option Subject :=
  if r.label = "MalformedTemplateError".toList then
    match r.ordered, r.namesWithin ["code".toList] with
    | [position], true => some (.malformedTemplate position)
    | _, _ => none
  else if r.label = "SchemaValidationError".toList then
    if r.namesWithin ["code".toList, "property".toList, "stream_id".toList] then
      (r.pair? "property".toList "stream_id".toList).map fun p => .unknownProperty p.1 p.2
    else none
  else if r.label = "RenderError".toList then
    match r.ordered, Table.get? r.named "key".toList,
        r.namesWithin ["code".toList, "key".toList, "index".toList] with
    | [message], some key, true =>
      some (.render message key ((Table.get? r.named "index".toList).getD .null))
    | _, _, _ => none
  else if r.label = "MissingRequiredSettingError".toList then
    match r.ordered, r.named, r.cause with
    | [name], [], none => some (.missingSetting name)
    | _, _, _ => none
  else if r.label = "InvalidSettingValueError".toList then
    match r.ordered, r.named, r.cause with
    | [name, value, reason], [], none => some (.invalidSetting name value reason)
    | _, _, _ => none
  else none

/-- The request without details, where it may state any. -/
def withoutDetail (r : Request) : Request :=
  match Family.ofLabel? r.label with
  | some _ => { r with named := r.named.filter fun entry => entry.1 ≠ "detail".toList }
  | none => r

/-- What the requested problem is about. -/
def subject? (r : Request) : Option Subject :=
  match Family.ofLabel? r.label with
  | some family => r.plainSubject? family
  | none => r.particularSubject?

end Request

/-- The requested problem, unless the particulars do not fit the label. -/
def ofRequest? (r : Request) : Option Problem :=
  r.subject?.map fun subject => ⟨subject, r.code, r.cause⟩

/-- The description of a requested problem. It tells nothing of the details, so it does not matter
whether they could be told. -/
def describeRequest? (r : Request) : Option Text := (ofRequest? r.withoutDetail).map describe

-- ---------------------------------------------------------------------------
-- Causes from outside
-- ---------------------------------------------------------------------------

/-- A label with its particulars; a single one has no comma behind it. -/
def describeCall (label : Text) (args : List Value) : Text :=
  match args with
  | [arg] => label ++ '(' :: arg.quoted ++ [')']
  | _ => label ++ (Value.tuple args).quoted

/-- The label of a system failure by its first particular, which is its number if it is one. -/
def systemLabel : List Value → Text
  | .int n :: _ => SystemFailure.labelOf n
  | .bool b :: _ => SystemFailure.labelOf b.toInt
  | _ => SystemFailure.commonLabel

/-- The particulars that a system failure shows. Where the third one is there, it says which file
is meant, and only the number and the words are shown; but if it was for want of room that nothing
could be done, a number in its place is a length and belongs to what is shown. -/
def shownParticulars (args : List Value) : Except Fault (List Value) :=
  match args with
  | _ :: _ :: .null :: _ => .ok args
  | _ :: _ :: third :: _ =>
    if systemLabel args = SystemFailure.labelOf 11 then
      match third with
      | .bool _ => .ok args
      | .int n => if Number.isLength n then .ok args else .error .notLength
      | .float _ | .decimal _ => .error .wrongType
      | _ => .ok (args.take 2)
    else .ok (args.take 2)
  | _ => .ok args

/-- A system failure by its particulars. With less than two or more than five it is not looked at
what they are. -/
def describeSystemFailure (args : List Value) : Except Fault Text :=
  if 2 ≤ args.length && args.length ≤ 5 then do
    return describeCall (systemLabel args) (← shownParticulars args)
  else .ok (describeCall SystemFailure.commonLabel args)

/-- The description of a cause from outside this library. -/
def describeCause (label : Text) (args : List Value) : Except Fault Text :=
  if label = SystemFailure.commonLabel then describeSystemFailure args
  else .ok (describeCall label args)

end EventLoom.Problem
