import EventLoom.Text.Printable

/-!
# Quoted texts

The form in which a message shows a text or a byte string so that its ends and its unusual
characters can be seen. The mark is an apostrophe, or a double quote where the text holds an
apostrophe and no double quote. The mark and the backslash are written after a backslash, line
feed, carriage return and tab by their letters, and every other unprintable character by its
number in two, four or eight hexadecimal digits.
-/

namespace EventLoom.Text

/-- The number in hexadecimal, with zeros in front up to `width` digits. -/
def hexPadded (width n : Nat) : Text :=
  let digits := Nat.toDigits 16 n
  List.replicate (width - digits.length) '0' ++ digits

/-- The mark that quotes `t`. -/
def quoteMark (t : Text) : Char :=
  if t.elem '\'' && !t.elem '"' then '"' else '\''

/-- The quoted form of one character under the mark `mark`. -/
def escapeChar (mark c : Char) : Text :=
  if c = mark ∨ c = '\\' then ['\\', c]
  else if c = '\n' then ['\\', 'n']
  else if c = '\r' then ['\\', 'r']
  else if c = '\t' then ['\\', 't']
  else if isPrintable c then [c]
  else if c.toNat ≤ 0xFF then '\\' :: 'x' :: hexPadded 2 c.toNat
  else if c.toNat ≤ 0xFFFF then '\\' :: 'u' :: hexPadded 4 c.toNat
  else '\\' :: 'U' :: hexPadded 8 c.toNat

/-- The text between its marks, with its unusual characters made visible. -/
def quoted (t : Text) : Text :=
  let mark := quoteMark t
  mark :: t.flatMap (escapeChar mark) ++ [mark]

/-- The quoted form of one byte: visible ASCII stands for itself. -/
def escapeByte (mark : Char) (b : UInt8) : Text :=
  let c := Char.ofNat b.toNat
  if b.toNat < 0x7F then escapeChar mark c else '\\' :: 'x' :: hexPadded 2 b.toNat

/-- The byte string between its marks after the letter `b`. -/
def quotedBytes (bytes : List UInt8) : Text :=
  let mark := quoteMark (bytes.map fun b => Char.ofNat b.toNat)
  'b' :: mark :: bytes.flatMap (escapeByte mark) ++ [mark]

end EventLoom.Text
