import EventLoom.Number.Integer
import EventLoom.Number.Binary64

/-!
# Reading real numerals

A real numeral is an integer numeral that may also have a point, with digits on one side of it
at least, and an exponent; or it is one of the words for infinity and for not a number, in
either case of letters. It is read as the nearest binary64 number.
-/

namespace EventLoom.Number

open Text

/-- What a real numeral says before it is rounded: `coefficient · 10 ^ exponent`. -/
structure Scientific where
  coefficient : Nat
  exponent : Int
  deriving DecidableEq, Repr

/-- The digits of a digit group that may also be missing. -/
def readOptionalDigits? (t : Text) : Option (List Nat) :=
  if t.isEmpty then some [] else readDigits? t

/-- Cut at the first character of the class `p`, which is dropped. -/
def cutAt (p : Char → Bool) (t : Text) : Text × Option Text :=
  match t.dropWhile (!p ·) with
  | [] => (t, none)
  | _ :: rest => (t.takeWhile (!p ·), some rest)

/-- The exponent part of a numeral: a sign and a digit group, or nothing at all. -/
def readExponent? : Option Text → Option Int
  | none => some 0
  | some t =>
    let (negative, digits) := takeSign t
    (readDigits? digits).map (ofSignedDigits negative)

/-- Read an unsigned real numeral that is not a word. -/
def readScientific? (t : Text) : Option Scientific := do
  let (mantissa, exponentPart) := cutAt (fun c => c == 'e' || c == 'E') t
  let exponent ← readExponent? exponentPart
  let (whole, fractionPart) := cutAt (· == '.') mantissa
  let wholeDigits ← readOptionalDigits? whole
  let fractionDigits ← readOptionalDigits? (fractionPart.getD [])
  if wholeDigits.isEmpty && fractionDigits.isEmpty then none
  else some ⟨ofDigits (wholeDigits ++ fractionDigits), exponent - fractionDigits.length⟩

/-- The text with its ASCII letters in lower case. -/
def lowerAscii (t : Text) : Text := t.map Char.toLower

/-- Read a real numeral as the nearest binary64 number. -/
def readReal? (t : Text) : Option Binary64 :=
  let (negative, body) := takeSign (trimBy isNumeralSpace t)
  let word := lowerAscii body
  if word = "nan".toList then some .nan
  else if word = "inf".toList ∨ word = "infinity".toList then some (.infinity negative)
  else (readScientific? body).map fun s => .ofScientific negative s.coefficient s.exponent

end EventLoom.Number
