import EventLoom.Text.Basic

/-!
# Hexadecimal texts

A byte string is written with two hexadecimal digits a byte. Reading takes digits in either case,
and blanks between two bytes and around them; blanks are those of ASCII. A text that is turned
down is turned down for the first character that cannot stand where it does, which is the end if
a digit is missing there.
-/

namespace EventLoom.Text

/-- The value of a hexadecimal digit. -/
def hexDigit? (c : Char) : Option Nat :=
  if '0' ≤ c && c ≤ '9' then some (c.toNat - 48)
  else if 'a' ≤ c && c ≤ 'f' then some (c.toNat - 87)
  else if 'A' ≤ c && c ≤ 'F' then some (c.toNat - 55)
  else none

/-- The blanks that may stand between bytes. -/
def hexBlanks : List Char := [' ', '\t', '\n', '\x0b', '\x0c', '\r']

/-- Read bytes from a text that begins at `place` of the whole. -/
def readHex (place : Nat) : Text → Except Nat (List UInt8)
  | [] => .ok []
  | c :: rest =>
    if hexBlanks.contains c then readHex (place + 1) rest
    else
      match hexDigit? c, rest with
      | none, _ => .error place
      | some _, [] => .error (place + 1)
      | some high, d :: more =>
        match hexDigit? d with
        | none => .error (place + 1)
        | some low => (readHex (place + 2) more).map (UInt8.ofNat (16 * high + low) :: ·)

/-- The bytes that a text denotes, or the place that keeps it from denoting any. Characters that
are not ASCII are found first. -/
def bytesOfHex (t : Text) : Except Nat (List UInt8) :=
  match t.findIdx? fun c => 128 ≤ c.toNat with
  | some place => .error place
  | none => readHex 0 t

/-- The text of one byte. -/
def hexOfByte (b : UInt8) : Text := [Nat.digitChar (b.toNat / 16), Nat.digitChar (b.toNat % 16)]

/-- The text of a byte string. -/
def hexOfBytes (bytes : List UInt8) : Text := bytes.flatMap hexOfByte

-- ---------------------------------------------------------------------------
-- Reading back
-- ---------------------------------------------------------------------------

theorem hexDigit?_digitChar : ∀ n, n < 16 → hexDigit? (Nat.digitChar n) = some n := by decide

end EventLoom.Text
