import EventLoom.Json.Writer
import EventLoom.Number.Real
import EventLoom.Text.Hex

/-!
# Reading JSON

What a JSON text says, as the standard has it: white space may stand around every value and
every sign, a text has no character below the space but in an escape sequence, a numeral has no
zero ahead of other digits, and nothing but white space follows the value. A numeral without
point and exponent is an integer, which has at most `digitLimit` digits; every other one is the
nearest binary64 number. Of two members of one name the later gives the value.

Every reader returns what it has read and what stands behind it.
-/

namespace EventLoom.Json

open Text Number

/-- White space between the parts of a JSON text. -/
def isSpace (c : Char) : Bool := c = ' ' || c = '\t' || c = '\n' || c = '\r'

/-- The text behind the white space that it begins with. -/
def skipSpace (t : Text) : Text := t.dropWhile isSpace

-- ---------------------------------------------------------------------------
-- Texts
-- ---------------------------------------------------------------------------

/-- The character that a sign behind a backslash stands for. -/
def ofEscapeSign? (c : Char) : Option Char :=
  if c = '"' || c = '\\' || c = '/' then some c
  else if c = 'n' then some '\n'
  else if c = 'r' then some '\r'
  else if c = 't' then some '\t'
  else if c = 'b' then some '\x08'
  else if c = 'f' then some '\x0C'
  else none

/-- The number that four hexadecimal digits denote. -/
def fourHex? : Text → Option Nat
  | a :: b :: c :: d :: _ => do
    let digits := [← hexDigit? a, ← hexDigit? b, ← hexDigit? c, ← hexDigit? d]
    some (digits.foldl (fun n digit => 16 * n + digit) 0)
  | _ => none

/-- The character that an escape sequence stands for, and how long it is without its backslash.
Two sequences that are the halves of one character stand for it; a half alone stands for none. -/
def ofEscape? : Text → Option (Char × Nat)
  | [] => none
  | c :: rest =>
    if c = 'u' then do
      let unit ← fourHex? rest
      if unit < 0xD800 || 0xDFFF < unit then some (Char.ofNat unit, 5)
      else
        match rest.drop 4 with
        | '\\' :: 'u' :: more => do
          let low ← fourHex? more
          if unit ≤ 0xDBFF && 0xDC00 ≤ low && low ≤ 0xDFFF then
            some (Char.ofNat (0x10000 + 0x400 * (unit - 0xD800) + (low - 0xDC00)), 11)
          else none
        | _ => none
    else (ofEscapeSign? c).map fun d => (d, 1)

/-- Read the characters of a text up to its closing quote; the first `skip` characters belong to
an escape sequence that is read already. -/
def readText? : Nat → Text → Option (Text × Text)
  | _, [] => none
  | skip + 1, _ :: rest => readText? skip rest
  | 0, c :: rest =>
    if c = '"' then some ([], rest)
    else if c = '\\' then do
      let (d, length) ← ofEscape? rest
      let (more, behind) ← readText? length rest
      some (d :: more, behind)
    else if c.toNat < 0x20 then none
    else do
      let (more, behind) ← readText? 0 rest
      some (c :: more, behind)

-- ---------------------------------------------------------------------------
-- Numbers and words
-- ---------------------------------------------------------------------------

/-- The digits that a text begins with. -/
def leadingDigits (t : Text) : List Nat × Text :=
  ((t.takeWhile Char.isDigit).map fun c => c.toNat - 48, t.dropWhile Char.isDigit)

/-- One digit at least. -/
def readSomeDigits? (t : Text) : Option (List Nat × Text) :=
  let (digits, behind) := leadingDigits t
  if digits.isEmpty then none else some (digits, behind)

/-- The digits ahead of a point; no digit follows a zero that comes first. -/
def readWholePart? (t : Text) : Option (List Nat × Text) := do
  let (digits, behind) ← readSomeDigits? t
  if t.head? = some '0' && 1 < digits.length then none else some (digits, behind)

/-- The digits behind a point, none if there is no point. -/
def readFractionPart? : Text → Option (List Nat × Text)
  | '.' :: rest => readSomeDigits? rest
  | t => some ([], t)

/-- The exponent, if there is one. -/
def readExponentPart? : Text → Option (Option Int × Text)
  | [] => some (none, [])
  | c :: rest =>
    if c = 'e' || c = 'E' then do
      let (negative, body) := takeSign rest
      let (digits, behind) ← readSomeDigits? body
      some (some (ofSignedDigits negative digits), behind)
    else some (none, c :: rest)

/-- Take a minus sign off. -/
def takeMinus : Text → Bool × Text
  | '-' :: rest => (true, rest)
  | t => (false, t)

/-- A numeral. -/
def readNumber? (t : Text) : Option (Value × Text) := do
  let (negative, body) := takeMinus t
  let (whole, behindWhole) ← readWholePart? body
  let (fraction, behindFraction) ← readFractionPart? behindWhole
  let (exponent, behind) ← readExponentPart? behindFraction
  if fraction.isEmpty && exponent.isNone then
    if whole.length ≤ digitLimit then some (.int (ofSignedDigits negative whole), behind)
    else none
  else
    some (.float (.ofScientific negative (ofDigits (whole ++ fraction))
      (exponent.getD 0 - fraction.length)), behind)

/-- The words and what they stand for. -/
def words : List (Text × Value) :=
  [(nothingWord, .null), (truthWord true, .bool true), (truthWord false, .bool false)]

/-- A word. -/
def readWord? (t : Text) : Option (Value × Text) :=
  words.findSome? fun (word, value) =>
    if word.isPrefixOf t then some (value, t.drop word.length) else none

-- ---------------------------------------------------------------------------
-- Values
-- ---------------------------------------------------------------------------

/-- Items with commas between them, up to the bracket `close`; at most `most` of them. -/
def readItems? {α : Type} (item : Text → Option (α × Text)) (close : Char) :
    Nat → Text → Option (List α × Text)
  | 0, _ => none
  | most + 1, t => do
    let (first, behind) ← item t
    match skipSpace behind with
    | [] => none
    | c :: rest =>
      if c = close then some ([first], rest)
      else if c = ',' then do
        let (more, behind) ← readItems? item close most rest
        some (first :: more, behind)
      else none

/-- The items behind an opening bracket. As an item is not empty, there are no more of them than
characters. -/
def readBracketed? {α : Type} (item : Text → Option (α × Text)) (close : Char) (t : Text) :
    Option (List α × Text) :=
  match skipSpace t with
  | [] => none
  | c :: rest => if c = close then some ([], rest) else readItems? item close t.length t

/-- A member of an object: a name, a colon and a value. -/
def readMember? (value : Text → Option (Value × Text)) (t : Text) :
    Option ((Key × Value) × Text) :=
  match skipSpace t with
  | '"' :: start => do
    let (name, behind) ← readText? 0 start
    match skipSpace behind with
    | ':' :: rest => do
      let (v, behind) ← value rest
      some ((.text name, v), behind)
    | _ => none
  | _ => none

/-- A value in which arrays and objects lie at most `depth` deep. -/
def readValue? : Nat → Text → Option (Value × Text)
  | 0, _ => none
  | depth + 1, t =>
    match skipSpace t with
    | '"' :: rest => do
      let (text, behind) ← readText? 0 rest
      some (.text text, behind)
    | '[' :: rest => do
      let (items, behind) ← readBracketed? (readValue? depth) ']' rest
      some (.list items, behind)
    | '{' :: rest => do
      let (members, behind) ← readBracketed? (readMember? (readValue? depth)) '}' rest
      some (.dict (Table.ofEntries members), behind)
    | other => readWord? other <|> readNumber? other

/-- What a JSON text says, if it is one. As every bracket takes a character, nothing lies deeper
than the text is long. -/
def read (t : Text) : Option Value :=
  match readValue? t.length t with
  | some (v, behind) => if behind.all isSpace then some v else none
  | none => none

end EventLoom.Json
