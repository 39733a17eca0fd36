import EventLoom.Fault
import EventLoom.Text.Identifier

/-!
# Types for hints

The hint of a setting may be given as a type. A type is a class by its name, a class applied to
types in brackets, or a union of alternatives between bars; parentheses group, and `type(…)` is
the class that a type itself belongs to. Unions are flat: an alternative that is a union stands
for its own alternatives, each of them counts once, and one alternative alone is no union.

A type gives a hint by its name. An applied class is called as the class alone, and a union, which
has no name, is written out.
-/

namespace EventLoom.Settings

open Text

/-- A type. -/
inductive TypeForm where
  /-- Nothing, written `None`. As an alternative it stands for the class that nothing is of. -/
  | nothing
  /-- What is left open, written with three dots. -/
  | leftOpen
  | named (name : Text)
  | applied (base : Text) (arguments : List TypeForm)
  | union (alternatives : List TypeForm)
  deriving Inhabited

namespace TypeForm

/-- The class that nothing is of. -/
def nothingClass : Text := "NoneType".toList

/-- The class that types are of. -/
def typeClass : Text := "type".toList

/-- The classes that can be applied to types. -/
def genericNames : List Text := [
  "dict".toList, "enumerate".toList, "frozenset".toList, "list".toList, "set".toList,
  "tuple".toList, typeClass]

/-- The classes that cannot. -/
def plainNames : List Text := [
  "bool".toList, "bytearray".toList, "bytes".toList, "classmethod".toList, "complex".toList,
  "filter".toList, "float".toList, "int".toList, "map".toList, "memoryview".toList,
  "object".toList, "property".toList, "range".toList, "reversed".toList, "slice".toList,
  "staticmethod".toList, "str".toList, "super".toList, "zip".toList]

-- ---------------------------------------------------------------------------
-- Writing
-- ---------------------------------------------------------------------------

mutual

/-- The type as it is written. -/
def shown : TypeForm → Text
  | .nothing => "None".toList
  | .leftOpen => "...".toList
  | .named name => name
  | .applied base arguments => base ++ '[' :: join ", ".toList (shownAll arguments) ++ [']']
  | .union alternatives => join " | ".toList (shownAll alternatives)

/-- Types, each as it is written. -/
def shownAll : List TypeForm → List Text
  | [] => []
  | t :: rest => t.shown :: shownAll rest

end

/-- The hint that a type gives. -/
def hint : TypeForm → Text
  | .applied base _ => base
  | .leftOpen => "Ellipsis".toList
  | t => t.shown

-- ---------------------------------------------------------------------------
-- Joining
-- ---------------------------------------------------------------------------

mutual

/-- Whether two types are the same; the order of alternatives does not matter. -/
def same : TypeForm → TypeForm → Bool
  | .nothing, .nothing => true
  | .leftOpen, .leftOpen => true
  | .named m, .named n => m == n
  | .applied m ts, .applied n us => m == n && samePairs ts us
  | .union ts, .union us => ts.length == us.length && allAmong ts us
  | _, _ => false

/-- Whether types are the same one by one. -/
def samePairs : List TypeForm → List TypeForm → Bool
  | [], [] => true
  | t :: ts, u :: us => same t u && samePairs ts us
  | _, _ => false

/-- Whether each of the types is among others. -/
def allAmong : List TypeForm → List TypeForm → Bool
  | [], _ => true
  | t :: ts, us => us.any (same t) && allAmong ts us

end

/-- The alternatives that a type stands for. -/
def alternatives : TypeForm → List TypeForm
  | .union ts => ts
  | .named name => if name = nothingClass then [.nothing] else [.named name]
  | t => [t]

/-- The types without those that are the same as an earlier one. -/
def distinct (ts : List TypeForm) : List TypeForm :=
  ts.foldl (fun done t => if done.any (same t) then done else done ++ [t]) []

/-- The type that has the given alternatives. -/
def ofAlternatives (ts : List TypeForm) : TypeForm :=
  match distinct ts with
  | [.nothing] => .named nothingClass
  | [t] => t
  | several => .union several

/-- Join two types as alternatives. What is left open is no alternative, and nothing can only be
joined to a class. -/
def either : TypeForm → TypeForm → Except Fault TypeForm
  | .nothing, .nothing => .error .wrongType
  | .leftOpen, _ => .error .wrongType
  | _, .leftOpen => .error .wrongType
  | t, u => .ok (ofAlternatives (t.alternatives ++ u.alternatives))

-- ---------------------------------------------------------------------------
-- Applying
-- ---------------------------------------------------------------------------

/-- The type of a name. -/
def ofName (name : Text) : Except Fault TypeForm :=
  if name = "None".toList then .ok .nothing
  else if name = "Ellipsis".toList || name = "...".toList then .ok .leftOpen
  else if genericNames.contains name || plainNames.contains name then .ok (.named name)
  else if isIdentifier name then .error (.unknownType name)
  else .error .unreadableType

/-- Apply a type to others. -/
def apply (t : TypeForm) (arguments : List TypeForm) : Except Fault TypeForm :=
  match t with
  | .named name =>
    if genericNames.contains name then .ok (.applied name arguments) else .error .wrongType
  | _ => .error .wrongType

/-- The class that a type is of. -/
def classOf : TypeForm → Text
  | .nothing => nothingClass
  | .leftOpen => "ellipsis".toList
  | .named _ => typeClass
  | .applied _ _ => "GenericAlias".toList
  | .union _ => "UnionType".toList

/-- Ask a type of something: only for the class that it is of. -/
def ask (t : TypeForm) (arguments : List TypeForm) : Except Fault TypeForm :=
  match t, arguments with
  | .named name, [argument] =>
    if name = typeClass then .ok (.named argument.classOf) else .error .wrongType
  | _, _ => .error .wrongType

-- ---------------------------------------------------------------------------
-- Reading
-- ---------------------------------------------------------------------------

/-- A piece of a written type. -/
inductive Token where
  | word (name : Text)
  | sign (c : Char)

/-- The pieces of a text behind the beginning of a word. -/
def tokens (word : Text) : Text → List Token
  | [] => if word.isEmpty then [] else [.word word]
  | c :: rest =>
    if isIdentifierChar c || c = '.' then tokens (word ++ [c]) rest
    else
      let behind := if c = ' ' || c = '\t' then tokens [] rest else .sign c :: tokens [] rest
      if word.isEmpty then behind else .word word :: behind

/-- What a part of a type has been opened with. -/
inductive Opening where
  | whole
  | group
  | application (t : TypeForm)
  | question (t : TypeForm)

/-- A part of a type, as far as it has been read: the arguments that are complete, the alternatives
before the last bar, and the type behind it. -/
structure Part where
  opening : Opening
  arguments : List TypeForm := []
  before? : Option TypeForm := none
  last? : Option TypeForm := none

namespace Part

/-- The type that the alternatives make. -/
def joined (p : Part) : Except Fault TypeForm :=
  match p.before?, p.last? with
  | none, some t => .ok t
  | some t, some u => either t u
  | _, none => .error .unreadableType

/-- The arguments with the last one; a comma may stand behind it. -/
def allArguments (p : Part) : Except Fault (List TypeForm) :=
  match p.arguments, p.before?, p.last? with
  | _ :: _, none, none => .ok p.arguments
  | _, _, _ => do return p.arguments ++ [← p.joined]

/-- The type that is complete where the part is closed by a sign. -/
def close (p : Part) (c : Char) : Except Fault TypeForm :=
  match p.opening, c with
  | .group, ')' => p.joined
  | .application t, ']' => p.allArguments >>= t.apply
  | .question t, ')' => p.allArguments >>= t.ask
  | _, _ => .error .unreadableType

/-- Whether the part lists arguments. -/
def isList (p : Part) : Bool :=
  match p.opening with
  | .application _ | .question _ => true
  | _ => false

end Part

/-- Read one piece: the innermost part and the parts around it. -/
def readToken (state : Part × List Part) (token : Token) : Except Fault (Part × List Part) :=
  let (part, around) := state
  match token, part.last? with
  | .word name, none => do return ({ part with last? := some (← ofName name) }, around)
  | .sign '(', none => .ok ({ opening := .group }, part :: around)
  | .sign '(', some t => .ok ({ opening := .question t }, { part with last? := none } :: around)
  | .sign '[', some t => .ok ({ opening := .application t }, { part with last? := none } :: around)
  | .sign '|', some _ => do
    return ({ part with before? := some (← part.joined), last? := none }, around)
  | .sign ',', some _ => do
    if part.isList then
      let arguments := part.arguments ++ [← part.joined]
      return ({ opening := part.opening, arguments := arguments }, around)
    else throw .unreadableType
  | .sign c, _ =>
    match around with
    | outer :: rest => do return ({ outer with last? := some (← part.close c) }, rest)
    | [] => .error .unreadableType
  | .word _, some _ => .error .unreadableType

/-- The type that a text writes. -/
def read (t : Text) : Except Fault TypeForm := do
  match ← (tokens [] t).foldlM readToken ({ opening := .whole }, []) with
  | (part, []) => part.joined
  | _ => throw .unreadableType

end TypeForm

/-- The hint of a type. -/
def hintOfType (type : Text) : Except Fault Text := do return (← TypeForm.read type).hint

end EventLoom.Settings
