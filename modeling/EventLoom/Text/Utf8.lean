import EventLoom.Text.Basic

/-!
# UTF-8

Writing a text as bytes, and reading bytes back strictly. A leading byte says how many
continuation bytes follow and gives the first bits of the code point; each continuation byte
gives six more. A sequence is refused if it is cut short, if its code point would fit in fewer
bytes, or if its code point is a surrogate or lies beyond 10FFFF.
-/

namespace EventLoom.Text

-- ---------------------------------------------------------------------------
-- Writing
-- ---------------------------------------------------------------------------

/-- The continuation byte that holds the low six bits of `n`. -/
def continuationByte (n : Nat) : UInt8 := UInt8.ofNat (0x80 + n % 64)

/-- The bytes of one character. -/
def encodeChar (c : Char) : List UInt8 :=
  let n := c.toNat
  if n < 0x80 then [UInt8.ofNat n]
  else if n < 0x800 then [UInt8.ofNat (0xC0 + n / 64), continuationByte n]
  else if n < 0x10000 then
    [UInt8.ofNat (0xE0 + n / 4096), continuationByte (n / 64), continuationByte n]
  else
    [UInt8.ofNat (0xF0 + n / 262144), continuationByte (n / 4096), continuationByte (n / 64),
      continuationByte n]

/-- The bytes of a text. -/
def encode (t : Text) : List UInt8 := t.flatMap encodeChar

-- ---------------------------------------------------------------------------
-- Reading
-- ---------------------------------------------------------------------------

/-- What a leading byte says about its sequence. -/
structure LeadByte where
  /-- How many continuation bytes follow. -/
  more : Nat
  /-- The first bits of the code point. -/
  bits : Nat
  /-- The least code point that needs a sequence of this length. -/
  least : Nat

/-- The meaning of a leading byte; continuation bytes and the bytes from F8 on lead nothing. -/
def leadByte? (b : UInt8) : Option LeadByte :=
  let n := b.toNat
  if n < 0x80 then some ⟨0, n, 0⟩
  else if n < 0xC0 then none
  else if n < 0xE0 then some ⟨1, n - 0xC0, 0x80⟩
  else if n < 0xF0 then some ⟨2, n - 0xE0, 0x800⟩
  else if n < 0xF8 then some ⟨3, n - 0xF0, 0x10000⟩
  else none

/-- Read `more` continuation bytes behind the bits `code`. -/
def readContinuation : Nat → Nat → List UInt8 → Option (Nat × List UInt8)
  | 0, code, rest => some (code, rest)
  | _ + 1, _, [] => none
  | more + 1, code, b :: rest =>
    if 0x80 ≤ b.toNat ∧ b.toNat < 0xC0 then
      readContinuation more (code * 64 + (b.toNat - 0x80)) rest
    else none

/-- Read one character from the front. -/
def decodeChar? : List UInt8 → Option (Char × List UInt8)
  | [] => none
  | b :: rest => do
    let lead ← leadByte? b
    let (code, rest') ← readContinuation lead.more lead.bits rest
    if lead.least ≤ code ∧ code.isValidChar then some (Char.ofNat code, rest') else none

theorem length_of_readContinuation {more code code' : Nat} {bytes rest : List UInt8}
    (h : readContinuation more code bytes = some (code', rest)) :
    rest.length ≤ bytes.length := by
  induction more generalizing code bytes with
  | zero => simp_all [readContinuation]
  | succ more ih =>
    cases bytes with
    | nil => simp [readContinuation] at h
    | cons b tail =>
      simp only [readContinuation] at h
      split at h
      · exact Nat.le_succ_of_le (ih h)
      · simp at h

theorem length_of_decodeChar? {bytes rest : List UInt8} {c : Char}
    (h : decodeChar? bytes = some (c, rest)) : rest.length < bytes.length := by
  cases bytes with
  | nil => simp [decodeChar?] at h
  | cons b tail =>
    simp only [decodeChar?, Option.bind_eq_bind, Option.bind_eq_some_iff] at h
    obtain ⟨lead, _, ⟨code, rest'⟩, hMore, hLast⟩ := h
    split at hLast
    · simp only [Option.some.injEq, Prod.mk.injEq] at hLast
      obtain ⟨_, rfl⟩ := hLast
      exact Nat.lt_succ_of_le (length_of_readContinuation hMore)
    · simp at hLast

/-- Read a text; `none` if the bytes are not the UTF-8 form of any. -/
def decode? (bytes : List UInt8) : Option Text :=
  if bytes.isEmpty then some []
  else
    match _h : decodeChar? bytes with
    | none => none
    | some (c, rest) => (decode? rest).map (c :: ·)
  termination_by bytes.length
  decreasing_by exact length_of_decodeChar? _h

end EventLoom.Text
