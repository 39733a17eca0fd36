import EventLoom.Stream.Basic

/-!
# Default templates

A stream that has no template of its own gets one that writes every attribute: an object with
one object for each group that is not empty, and in that one member for each attribute. It is
made by writing the object as JSON with the placeholders as texts, and then taking the quotes
off the placeholders, since the values that take their place bring their own.

The text can be made of any names. Whether it means what it says depends on the names, and the
check of a stream's names is what ensures it.
-/

namespace EventLoom

open Text

/-- The name of the one member of a rendered event. -/
def eventTag : Text := "event".toList

/-- The object of one group, with what `content` gives for each of its attributes. -/
def groupObject (content : Attribute → Value) (g : Group) (names : List Text) : Value :=
  .ofTable (names.map fun name => (name, content ⟨name, g⟩))

/-- The object of an event, with what `content` gives for each of its attributes; groups that
are empty are left out. -/
def eventObject (content : Attribute → Value) (names : Group → List Text) : Value :=
  .ofTable [(eventTag, .ofTable ((Group.all.filter fun g => !(names g).isEmpty).map fun g =>
    (g.tag, groupObject content g (names g))))]

/-- Take the quotes off the placeholders of a JSON text. -/
def unquotePlaceholders (t : Text) : Text :=
  replaceAll (closeToken ++ ['"']) closeToken (replaceAll ('"' :: openToken) openToken t)

/-- The default template for attributes of the given names. -/
def defaultTemplateOf (names : Group → List Text) : Text :=
  unquotePlaceholders (Json.write .compact (eventObject (fun a => .text (placeholder a.key)) names))

/-- The default template of a stream. -/
def Stream.defaultTemplate (s : Stream) : Text := defaultTemplateOf s.names

end EventLoom
