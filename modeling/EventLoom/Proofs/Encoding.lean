import EventLoom.Text.Utf8

/-!
# Reading UTF-8 undoes writing it

The two directions of UTF-8 look different. Writing chooses one of four forms by the size of the
code point; reading is told the form by the leading byte and goes on byte by byte. What they have in
common is a way to put the bits: the lowest six into the last byte, the next six into the byte
before that (`continuationBytes`), and what is left above them into the leading byte.

So the continuation bytes that are read under a leading byte are those of one number, the one whose
upper bits the leading byte has (`readContinuation_eq_some_iff`). That the number is not less than
the least one for the form, and is a code point of a character, is what is checked behind that. It
makes the form the one that writing chooses (`encodeChar_of_leads`), and some leading byte fits
every character (`exists_leads`). Nothing else is ever read: what is cut short, written with more
bytes than needed, no character, or a stray byte is refused.

## Results

* `readContinuation_eq_some_iff` — what a number of continuation bytes says.
* `decodeChar?_eq_some_iff` — a character is read exactly where it is written.
* `decode?_eq_some_iff` — and so is a text.
* `encode_eq_utf8Encode` — the bytes are those that the text has as a string.
-/

namespace EventLoom.Text

-- ---------------------------------------------------------------------------
-- Continuation bytes
-- ---------------------------------------------------------------------------

/-- The bytes that hold the lowest bits of `n`, six in each. -/
def continuationBytes (n : Nat) : Nat → List UInt8
  | 0 => []
  | count + 1 => continuationByte (n >>> (6 * count)) :: continuationBytes n count

theorem toNat_continuationByte (n : Nat) : (continuationByte n).toNat = 0x80 + n % 64 := by
  rw [continuationByte, UInt8.toNat_ofNat']
  omega

theorem eq_continuationByte_iff {b : UInt8} {n : Nat} :
    b = continuationByte n ↔ b.toNat = 0x80 + n % 64 := by
  rw [← UInt8.toNat_inj, toNat_continuationByte]

/-- Bits that are read are bits of one number: the upper ones were there before, and the lower ones
are in the continuation bytes. -/
theorem readContinuation_eq_some_iff {count code n : Nat} {bytes rest : List UInt8} :
    readContinuation count code bytes = some (n, rest) ↔
      n >>> (6 * count) = code ∧ bytes = continuationBytes n count ++ rest := by
  induction count generalizing code bytes with
  | zero =>
    rw [readContinuation, Option.some.injEq, Prod.mk.injEq]
    exact and_congr_left' eq_comm
  | succ count ih =>
    have hShift : n >>> (6 * (count + 1)) = n >>> (6 * count) / 64 := by
      rw [Nat.mul_succ, Nat.shiftRight_add, Nat.shiftRight_eq_div_pow _ 6]
    cases bytes with
    | nil =>
      rw [readContinuation]
      refine iff_of_false ?_ ?_
      · rintro ⟨⟩
      · rintro ⟨-, ⟨⟩⟩
    | cons b tail =>
      rw [readContinuation, hShift, continuationBytes, List.cons_append, List.cons.injEq,
        eq_continuationByte_iff]
      split
      · rename_i hByte
        rw [ih, ← and_assoc]
        refine and_congr_left' ?_
        omega
      · rename_i hByte
        refine iff_of_false ?_ ?_
        · rintro ⟨⟩
        · rintro ⟨-, hThere, -⟩
          omega

-- ---------------------------------------------------------------------------
-- Leading bytes
-- ---------------------------------------------------------------------------

/-- The leading byte fits the number: its form is not too long, and its bits are those above the
continuation bytes. -/
structure LeadByte.Leads (lead : LeadByte) (n : Nat) : Prop where
  least_le : lead.least ≤ n
  bits : n >>> (6 * lead.more) = lead.bits

/-- A character has the form of any leading byte that fits it. -/
theorem encodeChar_of_leads {b : UInt8} {lead : LeadByte} {c : Char}
    (hLead : leadByte? b = some lead) (h : lead.Leads c.toNat) :
    encodeChar c = b :: continuationBytes c.toNat lead.more := by
  have hByte : ∀ n, b.toNat = n → b = UInt8.ofNat n := by
    rintro n rfl
    exact (UInt8.ofNat_toNat).symm
  obtain ⟨hLeast, hBits⟩ := h
  rw [leadByte?] at hLead
  repeat' split at hLead
  all_goals cases hLead
  all_goals simp only [continuationBytes, Nat.shiftRight_eq_div_pow, Nat.reducePow, Nat.reduceMul,
    Nat.div_one] at hLeast hBits ⊢
  · rw [encodeChar, if_pos (by omega), ← hByte _ (by omega)]
  · rw [encodeChar, if_neg (by omega), if_pos (by omega), ← hByte _ (by omega)]
  · rw [encodeChar, if_neg (by omega), if_neg (by omega), if_pos (by omega), ← hByte _ (by omega)]
  · rw [encodeChar, if_neg (by omega), if_neg (by omega), if_neg (by omega), ← hByte _ (by omega)]

/-- A leading byte is told by what it adds to its bits. -/
theorem leadByte?_ofNat {n : Nat} (h : n < 0x100) :
    leadByte? (UInt8.ofNat n) =
      if n < 0x80 then some ⟨0, n, 0⟩
      else if n < 0xC0 then none
      else if n < 0xE0 then some ⟨1, n - 0xC0, 0x80⟩
      else if n < 0xF0 then some ⟨2, n - 0xE0, 0x800⟩
      else if n < 0xF8 then some ⟨3, n - 0xF0, 0x10000⟩
      else none := by
  have hByte : (UInt8.ofNat n).toNat = n := by
    rw [UInt8.toNat_ofNat', Nat.mod_eq_of_lt h]
  simp only [leadByte?, hByte]

theorem toNat_lt (c : Char) : c.toNat < 0x110000 := by
  rcases c.valid with hLow | ⟨-, hHigh⟩
  · exact Nat.lt_trans hLow (by decide)
  · exact hHigh

/-- There is a leading byte that fits the character. -/
theorem exists_leads (c : Char) : ∃ b lead, leadByte? b = some lead ∧ lead.Leads c.toNat := by
  have hMost := toNat_lt c
  by_cases hOne : c.toNat < 0x80
  · refine ⟨UInt8.ofNat c.toNat, ⟨0, c.toNat, 0⟩, ?_, Nat.zero_le _, rfl⟩
    rw [leadByte?_ofNat (by omega), if_pos hOne]
  · by_cases hTwo : c.toNat < 0x800
    · refine ⟨UInt8.ofNat (0xC0 + c.toNat / 64), ⟨1, c.toNat / 64, 0x80⟩, ?_,
        Nat.le_of_not_lt hOne, Nat.shiftRight_eq_div_pow _ 6⟩
      rw [leadByte?_ofNat (by omega), if_neg (by omega), if_neg (by omega), if_pos (by omega),
        Nat.add_sub_cancel_left]
    · by_cases hThree : c.toNat < 0x10000
      · refine ⟨UInt8.ofNat (0xE0 + c.toNat / 4096), ⟨2, c.toNat / 4096, 0x800⟩, ?_,
          Nat.le_of_not_lt hTwo, Nat.shiftRight_eq_div_pow _ 12⟩
        rw [leadByte?_ofNat (by omega), if_neg (by omega), if_neg (by omega), if_neg (by omega),
          if_pos (by omega), Nat.add_sub_cancel_left]
      · refine ⟨UInt8.ofNat (0xF0 + c.toNat / 262144), ⟨3, c.toNat / 262144, 0x10000⟩, ?_,
          Nat.le_of_not_lt hThree, Nat.shiftRight_eq_div_pow _ 18⟩
        rw [leadByte?_ofNat (by omega), if_neg (by omega), if_neg (by omega), if_neg (by omega),
          if_neg (by omega), if_pos (by omega), Nat.add_sub_cancel_left]

-- ---------------------------------------------------------------------------
-- Characters and texts
-- ---------------------------------------------------------------------------

theorem decodeChar?_cons_eq_some_iff {b : UInt8} {tail rest : List UInt8} {c : Char} :
    decodeChar? (b :: tail) = some (c, rest) ↔
      ∃ lead, leadByte? b = some lead ∧ lead.Leads c.toNat
        ∧ tail = continuationBytes c.toNat lead.more ++ rest := by
  simp only [decodeChar?, Option.bind_eq_bind, Option.bind_eq_some_iff]
  refine exists_congr fun lead => and_congr_right fun hLead => ?_
  constructor
  · rintro ⟨⟨n, rest'⟩, hRead, hChar⟩
    obtain ⟨hBits, hTail⟩ := readContinuation_eq_some_iff.mp hRead
    split at hChar
    · rename_i hCode
      cases hChar
      have hNumber : (Char.ofNat n).toNat = n := by
        rw [Char.ofNat, dif_pos hCode.2]
        rfl
      rw [hNumber]
      exact ⟨⟨hCode.1, hBits⟩, hTail⟩
    · cases hChar
  · rintro ⟨⟨hLeast, hBits⟩, hTail⟩
    refine ⟨(c.toNat, rest), readContinuation_eq_some_iff.mpr ⟨hBits, hTail⟩, ?_⟩
    rw [if_pos ⟨hLeast, c.valid⟩, Char.ofNat_toNat]

/-- **A character is read exactly where it is written.** -/
theorem decodeChar?_eq_some_iff {bytes rest : List UInt8} {c : Char} :
    decodeChar? bytes = some (c, rest) ↔ bytes = encodeChar c ++ rest := by
  constructor
  · intro h
    cases bytes with
    | nil => cases h
    | cons b tail =>
      obtain ⟨lead, hLead, hLeads, hTail⟩ := decodeChar?_cons_eq_some_iff.mp h
      rw [encodeChar_of_leads hLead hLeads, hTail, List.cons_append]
  · rintro rfl
    obtain ⟨b, lead, hLead, hLeads⟩ := exists_leads c
    rw [encodeChar_of_leads hLead hLeads, List.cons_append]
    exact decodeChar?_cons_eq_some_iff.mpr ⟨lead, hLead, hLeads, rfl⟩

theorem encode_cons (c : Char) (t : Text) : encode (c :: t) = encodeChar c ++ encode t := rfl

theorem decode?_of_decodeChar? {bytes rest : List UInt8} {c : Char}
    (h : decodeChar? bytes = some (c, rest)) : decode? bytes = (decode? rest).map (c :: ·) := by
  cases bytes with
  | nil => cases h
  | cons b tail =>
    rw [decode?, if_neg (by simp)]
    split
    · rename_i hNone
      rw [h] at hNone
      cases hNone
    · rename_i hSome
      rw [h] at hSome
      cases hSome
      rfl

/-- **A text is read exactly from the bytes that it is written with.** -/
theorem decode?_eq_some_iff {bytes : List UInt8} {t : Text} :
    decode? bytes = some t ↔ bytes = encode t := by
  constructor
  · intro h
    fun_induction decode? bytes generalizing t with
    | case1 bytes hEmpty =>
      cases h
      exact List.isEmpty_iff.mp hEmpty
    | case2 => cases h
    | case3 bytes hSome c rest hChar ih =>
      obtain ⟨more, hMore, rfl⟩ := Option.map_eq_some_iff.mp h
      rw [decodeChar?_eq_some_iff.mp hChar, ih hMore, encode_cons]
  · rintro rfl
    induction t with
    | nil => rw [encode, List.flatMap_nil, decode?, List.isEmpty_nil, if_pos rfl]
    | cons c rest ih =>
      rw [decode?_of_decodeChar? (decodeChar?_eq_some_iff.mpr (encode_cons c rest)), ih,
        Option.map_some]

-- ---------------------------------------------------------------------------
-- Strings
-- ---------------------------------------------------------------------------

theorem encodeChar_eq_utf8EncodeChar (c : Char) : encodeChar c = String.utf8EncodeChar c := by
  have hMost := toNat_lt c
  have hLead : ∀ {mark bits room : Nat}, bits < room →
      UInt8.ofNat (mark + bits) = UInt8.ofNat (bits % room + mark) := by
    intro mark bits room hBits
    rw [Nat.mod_eq_of_lt hBits, Nat.add_comm]
  have hMore : ∀ n, continuationByte n = UInt8.ofNat (n % 0x40 + 0x80) := by
    intro n
    rw [continuationByte, Nat.add_comm]
  have hSame : c.val.toNat = c.toNat := rfl
  rw [String.utf8EncodeChar, hSame, encodeChar]
  by_cases hOne : c.toNat < 0x80
  · rw [if_pos hOne, if_pos (Nat.le_of_lt_succ hOne)]
  · rw [if_neg hOne, if_neg (show ¬ c.toNat ≤ 0x7f by omega)]
    by_cases hTwo : c.toNat < 0x800
    · rw [if_pos hTwo, if_pos (Nat.le_of_lt_succ hTwo), hLead (show c.toNat / 64 < 0x20 by omega),
        hMore]
    · rw [if_neg hTwo, if_neg (show ¬ c.toNat ≤ 0x7ff by omega)]
      by_cases hThree : c.toNat < 0x10000
      · rw [if_pos hThree, if_pos (Nat.le_of_lt_succ hThree),
          hLead (show c.toNat / 4096 < 0x10 by omega), hMore, hMore]
      · rw [if_neg hThree, if_neg (show ¬ c.toNat ≤ 0xffff by omega),
          hLead (show c.toNat / 262144 < 0x08 by omega), hMore, hMore, hMore]

/-- The bytes of a text are those of the string that it makes up. -/
theorem encode_eq_utf8Encode (t : Text) : encode t = t.utf8Encode.data.toList := by
  have hChars : encodeChar = String.utf8EncodeChar := funext encodeChar_eq_utf8EncodeChar
  rw [encode, hChars, List.utf8Encode, List.toList_data_toByteArray]

end EventLoom.Text
