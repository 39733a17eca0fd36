import EventLoom.Text.Basic

/-!
# Attribute groups

The attributes of an event come in three groups, and an event's values are laid out group by
group in the order of this type's constructors. The payload is the group that a bare key means;
the keys of the other two begin with the group's name.
-/

namespace EventLoom

/-- A section of an event. -/
inductive Group where
  | metadata
  | correlation
  | payload
  deriving DecidableEq, Repr

namespace Group

/-- All groups in layout order. -/
def all : List Group := [.metadata, .correlation, .payload]

/-- The name of the group. -/
def name : Group → Text
  | .metadata => "meta".toList
  | .correlation => "correlation".toList
  | .payload => "payload".toList

/-- The group of a given name. -/
def ofName? (t : Text) : Option Group := all.find? fun g => g.name = t

/-- What the keys of the group's attributes begin with. -/
def keyLead : Group → Text
  | .payload => []
  | g => g.name ++ ['_']

/-- The name of the group's object in a rendered event. -/
def tag (g : Group) : Text := g.name ++ "Data".toList

/-- Whether the attributes of the group have a second key, their bare name. -/
def hasBareKey : Group → Bool
  | .payload => false
  | _ => true

end Group

end EventLoom
