import EventLoom.Text.Blank
import EventLoom.Text.Case
import EventLoom.Value.Arithmetic

/-!
# Decoding settings

A setting arrives as a value, as a rule a text, and a hint says what it is to be read as. Hints
are written as annotations are: `bool`, `int`, `float`, anything that begins with `list`, and for
all other hints the value is taken as it is. A hint that mentions `None` is optional: then an empty
text and the words for nothing mean that there is no value. What else an optional hint means is
found by taking the alternative `None` out of it.

Only a text can be compared with words or cut into items. A number is read from whatever gives one.

## Results

* `decode_of_not_optional` — a hint that does not mention `None` is its own base.
-/

namespace EventLoom.Settings

open Text Number

/-- The words for true. -/
def trueWords : List Text := ["1".toList, "true".toList, "yes".toList, "on".toList]

/-- The words for no value. -/
def nullWords : List Text := ["".toList, "none".toList, "null".toList]

/-- The text that a setting has to be to be taken apart. -/
def textOf : Value → Except Fault Text
  | .text t => .ok t
  | _ => .error .noSuchOperation

/-- Whether a setting is one of the words, whatever its case and the blanks around it. -/
def isWord (words : List Text) (raw : Value) : Except Fault Bool := do
  return words.contains (lower (strip (← textOf raw)))

/-- The items of a list, between commas. Blank items do not count. -/
def decodeList (raw : Text) : List Text := ((cut ',' raw).map strip).filter fun item => item ≠ []

/-- Read a setting as a hint without alternatives says. -/
def decodeBase (hint : Text) (raw : Value) : Except Fault Value := do
  if hint = "bool".toList then return .bool (← isWord trueWords raw)
  else if hint = "int".toList then return .int (← raw.toInteger)
  else if hint = "float".toList then return .float (← raw.toReal)
  else if "list".toList.isPrefixOf hint then
    return .list ((decodeList (← textOf raw)).map .text)
  else return raw

/-- Whether a hint admits that there is no value. -/
def isOptional (hint : Text) : Bool := hasToken "None".toList hint

/-- What is left of a hint when the alternative `None` has been taken out. -/
def baseHint (hint : Text) : Text :=
  strip (replaceAll "None |".toList [] (replaceAll "| None".toList [] hint))

/-- Read a setting as a hint says. -/
def decode (hint : Text) (raw : Value) : Except Fault Value := do
  if isOptional hint then
    if ← isWord nullWords raw then return .null
  decodeBase (baseHint hint) raw

theorem decode_of_not_optional {hint : Text} (h : isOptional hint = false) (raw : Value) :
    decode hint raw = decodeBase (baseHint hint) raw := by
  simp [decode, h]

end EventLoom.Settings
