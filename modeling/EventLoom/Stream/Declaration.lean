import EventLoom.Stream.Basic

/-!
# Declaring streams

A declaration is what somebody writes down to define a stream. It says of each attribute which
group it belongs to and lists it under a group, and names are any values. `accept` checks it, in
a fixed order: the stream's name, then every attribute in layout order (its group, whether it
has a name, whether the name can be a key, whether it came before), then whether any two
attributes answer to one key.

A declaration can be given as a record of loosely typed values (`ofRecord`); whatever has items
can be a group there, and an item is an attribute's name or a record that holds it.
-/

namespace EventLoom

open Text

/-- An attribute as it is declared. -/
structure Declared where
  name : Value
  group : Group

/-- A stream as it is declared, with the attributes that are listed under each group. -/
structure Declaration where
  name : Value
  version : Value
  metadata : List Declared
  correlation : List Declared
  payload : List Declared

-- ---------------------------------------------------------------------------
-- Checking a declaration
-- ---------------------------------------------------------------------------

/-- Whether the value is one of the placeholder tokens. -/
def isToken (v : Value) : Bool := v.asText?.any fun t => t = openToken || t = closeToken

/-- Whether a value that is taken as a name reads back as a key. Lists and tables are searched for
the tokens among their items before they turn out to be no texts. -/
def isSafeName (name : Value) : Except Fault Bool :=
  match name with
  | .text t => .ok (isPlaceholderSafe t)
  | .list items | .tuple items =>
    if items.any isToken then .ok false else .error .noSuchOperation
  | .dict entries =>
    if (Table.keys entries).any (isToken ·.toValue) then .ok false else .error .noSuchOperation
  | _ => .error .wrongType

/-- The attribute's name as a text that can be a key. -/
def keyName (name : Value) (streamId : Text) : Except Fault Text :=
  match isSafeName name, name.asText? with
  | .error fault, _ => .error fault
  | .ok true, some t => .ok t
  | .ok _, _ => .error (.unsafeAttribute name streamId)

/-- The name of an attribute that is listed under a group behind the names `seen`. -/
def acceptName (streamId : Text) (listed : Group) (seen : List Text) (d : Declared) :
    Except Fault Text :=
  if d.group = listed then
    if !d.name.isTruthy then .error (.namelessAttribute streamId)
    else do
      let name ← keyName d.name streamId
      if seen.contains name then .error (.repeatedAttribute name streamId) else .ok name
  else .error (.misplacedAttribute d.name.plain d.group listed streamId)

/-- The names of the attributes that are listed under a group behind the names `seen`. -/
def acceptNames (streamId : Text) (listed : Group) (seen : List Text) :
    List Declared → Except Fault (List Text)
  | [] => .ok []
  | d :: rest => do
    let name ← acceptName streamId listed seen d
    let names ← acceptNames streamId listed (name :: seen) rest
    return name :: names

/-- The first text that came before. -/
def firstRepeated? (seen : List Text) : List Text → Option Text
  | [] => none
  | t :: rest => if t ∈ seen then some t else firstRepeated? (t :: seen) rest

namespace Declaration

/-- The stream that is declared. -/
def accept (d : Declaration) : Except Fault Stream :=
  if !d.name.isTruthy then .error .namelessStream
  else do
    let streamId := streamIdOf d.name d.version
    let metadata ← acceptNames streamId .metadata [] d.metadata
    let correlation ← acceptNames streamId .correlation metadata d.correlation
    let payload ← acceptNames streamId .payload (metadata ++ correlation) d.payload
    let stream : Stream := ⟨d.name, d.version, metadata, correlation, payload⟩
    match firstRepeated? [] (stream.placeholderKeys.map Prod.fst) with
    | some key => .error (.ambiguousKey key streamId)
    | none => .ok stream

-- ---------------------------------------------------------------------------
-- Ways to declare
-- ---------------------------------------------------------------------------

/-- Declare every attribute in the group that it is listed under. -/
def ofNames (name version : Value) (metadata correlation payload : List Value) : Declaration :=
  ⟨name, version, metadata.map (⟨·, .metadata⟩), correlation.map (⟨·, .correlation⟩),
    payload.map (⟨·, .payload⟩)⟩

/-- Declare attributes with the names of their groups. -/
def ofListed (name version : Value) (metadata correlation payload : List (Value × Value)) :
    Except Fault Declaration := do
  let declared (entry : Value × Value) : Except Fault Declared :=
    match entry.2.asText?.bind Group.ofName? with
    | some g => .ok ⟨entry.1, g⟩
    | none => .error (.unknownGroup entry.2)
  return ⟨name, version, ← metadata.mapM declared, ← correlation.mapM declared,
    ← payload.mapM declared⟩

/-- The member of a record that holds a name. -/
def nameMember : Text := "name".toList

/-- The member of a record that holds a version. -/
def versionMember : Text := "version".toList

/-- The name that an item of a group gives. -/
def itemName : Value → Except Fault Value
  | .dict entries => Value.ofEntry entries (.text nameMember)
  | v => do return .text (← v.written)

/-- The names that a record gives for a group; what counts as nothing gives none. -/
def groupNames (record : Entries) (g : Group) : Except Fault (List Value) :=
  match Table.get? record (.text g.tag) with
  | none => .ok []
  | some v => if v.isTruthy then do (← v.items).mapM itemName else .ok []

/-- The declaration that a record holds. -/
def ofRecord (record : Value) : Except Fault Declaration := do
  let record ← record.asEntries
  let name ← Value.ofEntry record (.text nameMember)
  let version ← ((Table.get? record (.text versionMember)).getD Stream.defaultVersion).written
  return ofNames name (.text version) (← groupNames record .metadata)
    (← groupNames record .correlation) (← groupNames record .payload)

end Declaration

-- ---------------------------------------------------------------------------
-- What is accepted
-- ---------------------------------------------------------------------------

theorem isSafeName_eq_true {name : Value} (h : isSafeName name = .ok true) :
    ∃ t, name = .text t ∧ isPlaceholderSafe t = true := by
  unfold isSafeName at h
  split at h
  case h_1 t => exact ⟨t, rfl, Except.ok.inj h⟩
  all_goals
    repeat' split at h
    all_goals cases h

theorem keyName_eq_ok {name : Value} {streamId t : Text} (h : keyName name streamId = .ok t) :
    name = .text t ∧ isPlaceholderSafe t = true := by
  unfold keyName at h
  split at h
  · cases h
  · rename_i hSafe hText
    cases h
    obtain ⟨u, rfl, hu⟩ := isSafeName_eq_true hSafe
    cases hText
    exact ⟨rfl, hu⟩
  · cases h

theorem acceptName_eq_ok {streamId : Text} {listed : Group} {seen : List Text} {d : Declared}
    {t : Text} (h : acceptName streamId listed seen d = .ok t) :
    d = ⟨.text t, listed⟩ ∧ t ∉ seen := by
  simp only [acceptName] at h
  split at h
  · rename_i hGroup
    split at h
    · cases h
    · rcases hName : keyName d.name streamId with fault | name
      · simp [hName, bind, Except.bind] at h
      · simp only [hName, bind, Except.bind] at h
        split at h
        · cases h
        · rename_i hSeen
          cases h
          obtain ⟨hText, -⟩ := keyName_eq_ok hName
          obtain ⟨dName, dGroup⟩ := d
          simp_all
  · cases h

end EventLoom
