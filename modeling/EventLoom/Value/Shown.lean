import EventLoom.Value.Basic
import EventLoom.Number.Shortest
import EventLoom.Text.Quoted

/-!
# Values in messages and templates

A value is shown in one of two forms. The plain form of a text is the text itself; the quoted
form puts it between marks, so that it can stand inside another value. All other values look the
same in both forms: lists in brackets, tuples in parentheses with a comma behind a single item,
tables in braces, and everything inside them in quoted form.
-/

namespace EventLoom

open Text Number

/-- The word for no value. -/
def nothingWord : Text := "None".toList

/-- The word for a truth value. -/
def truthWord (b : Bool) : Text := if b then "True".toList else "False".toList

/-- The key as it is written inside a table. -/
def Key.quoted : Key → Text
  | .null => nothingWord
  | .bool b => truthWord b
  | .int n => intText n
  | .float x => floatText .plain x
  | .text t => Text.quoted t

namespace Value

mutual

/-- The value as it is written inside another value. -/
def quoted : Value → Text
  | .null => nothingWord
  | .bool b => truthWord b
  | .int n => intText n
  | .float x => floatText .plain x
  | .decimal d => "Decimal('".toList ++ d.text ++ "')".toList
  | .text t => Text.quoted t
  | .bytes b => quotedBytes b
  | .list items => '[' :: join ", ".toList (quotedItems items) ++ [']']
  | .tuple items =>
    '(' :: join ", ".toList (quotedItems items) ++ (if items.length = 1 then [','] else []) ++ [')']
  | .dict entries => '{' :: join ", ".toList (quotedEntries entries) ++ ['}']

/-- The items of a list or tuple, each in quoted form. -/
def quotedItems : List Value → List Text
  | [] => []
  | item :: rest => item.quoted :: quotedItems rest

/-- The entries of a table, each with its key in quoted form. -/
def quotedEntries : List (Key × Value) → List Text
  | [] => []
  | (key, value) :: rest =>
    (key.quoted ++ ": ".toList ++ value.quoted) :: quotedEntries rest

end

/-- What the values of a kind are called. -/
def className : Value → Text
  | .null => "NoneType".toList
  | .bool _ => "bool".toList
  | .int _ => "int".toList
  | .float _ => "float".toList
  | .decimal _ => "decimal.Decimal".toList
  | .text _ => "str".toList
  | .bytes _ => "bytes".toList
  | .list _ => "list".toList
  | .tuple _ => "tuple".toList
  | .dict _ => "dict".toList

/-- The value as it stands by itself. -/
def plain : Value → Text
  | .text t => t
  | .decimal d => d.text
  | v => v.quoted

end Value

end EventLoom
