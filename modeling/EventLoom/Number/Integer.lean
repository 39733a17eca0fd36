import EventLoom.Number.Power
import EventLoom.Text.Blank
import EventLoom.Text.Digit

/-!
# Integers as text

Writing an integer in decimal, and reading a numeral. A numeral may have white space around it
and a sign before it; its digits may be those of any script, and single underscores may stand
between two digits. The information separators 1C to 1F, white space elsewhere, do not belong
to the white space around a numeral.

Integers of more than `digitLimit` digits are neither written nor read. The digits are counted
as far as they go, before it is looked at what stands behind them, so reading keeps the two
apart.

## Results

* `readNumeral?_intText` — what is written for an integer reads back as that integer.
-/

namespace EventLoom.Number

open Text

/-- The most digits that an integer may have as text. -/
def digitLimit : Nat := 4300

-- ---------------------------------------------------------------------------
-- Writing
-- ---------------------------------------------------------------------------

/-- The decimal digits of a natural number. -/
def natText (n : Nat) : Text := Nat.toDigits 10 n

/-- The decimal digits of an integer, after a minus sign if it is negative. -/
def intText : Int → Text
  | .ofNat n => natText n
  | .negSucc n => '-' :: natText (n + 1)

-- ---------------------------------------------------------------------------
-- Reading
-- ---------------------------------------------------------------------------

/-- Whether `c` may stand before and behind a numeral. -/
def isNumeralSpace (c : Char) : Bool :=
  isBlankChar c && !(0x1C ≤ c.toNat && c.toNat ≤ 0x1F)

/-- Take the sign off; without one the numeral is not negative. -/
def takeSign : Text → Bool × Text
  | '-' :: rest => (true, rest)
  | '+' :: rest => (false, rest)
  | t => (false, t)

/-- The digits behind a digit, as far as they go, and what stands behind them. -/
def takeMoreDigits : Text → List Nat × Text
  | [] => ([], [])
  | '_' :: c :: rest =>
    match digitValue? c with
    | some d => let (more, behind) := takeMoreDigits rest; (d :: more, behind)
    | none => ([], '_' :: c :: rest)
  | c :: rest =>
    match digitValue? c with
    | some d => let (more, behind) := takeMoreDigits rest; (d :: more, behind)
    | none => ([], c :: rest)

/-- The digit group that a text begins with, and what stands behind it. A group has a digit at
least, and an underscore cannot be its last character. -/
def takeDigits? : Text → Option (List Nat × Text)
  | [] => none
  | c :: rest => do
    let first ← digitValue? c
    let (more, behind) := takeMoreDigits rest
    if behind.head? = some '_' then none else some (first :: more, behind)

/-- The digits of a text that is one digit group. -/
def readDigits? (t : Text) : Option (List Nat) :=
  match takeDigits? t with
  | some (digits, []) => some digits
  | _ => none

/-- The number with the given decimal digits. -/
def ofDigits (digits : List Nat) : Nat := digits.foldl (fun n d => n * 10 + d) 0

/-- The integer with the given sign and decimal digits. -/
def ofSignedDigits (negative : Bool) (digits : List Nat) : Int :=
  if negative then -(ofDigits digits : Int) else ofDigits digits

/-- How a text begins that is to be an integer: a sign, a digit group, and what stands behind
them. -/
structure Numeral where
  negative : Bool
  digits : List Nat
  behind : Text
  deriving DecidableEq, Repr

/-- The numeral that a text begins with, behind its white space. -/
def readNumeral? (t : Text) : Option Numeral :=
  let (negative, body) := takeSign (t.dropWhile isNumeralSpace)
  (takeDigits? body).map fun (digits, behind) => ⟨negative, digits, behind⟩

namespace Numeral

/-- Whether nothing but white space stands behind the numeral. -/
def isWhole (n : Numeral) : Bool := n.behind.all isNumeralSpace

/-- The integer that the numeral denotes. -/
def value (n : Numeral) : Int := ofSignedDigits n.negative n.digits

end Numeral

-- ---------------------------------------------------------------------------
-- What is written reads back
-- ---------------------------------------------------------------------------

theorem eq_of_isDigit {c : Char} (h : c.isDigit = true) : ∃ n < 10, c = Char.ofNat (48 + n) := by
  have hRange : 48 ≤ c.toNat ∧ c.toNat ≤ 57 := Char.isDigit_iff_toNat.1 h
  refine ⟨c.toNat - 48, by omega, ?_⟩
  rw [show 48 + (c.toNat - 48) = c.toNat by omega, Char.ofNat_toNat]

theorem digitValue?_of_isDigit {c : Char} (h : c.isDigit = true) :
    digitValue? c = some (c.toNat - 48) := by
  obtain ⟨n, hn, rfl⟩ := eq_of_isDigit h
  have hAll : ∀ n < 10, digitValue? (Char.ofNat (48 + n)) = some ((Char.ofNat (48 + n)).toNat - 48) := by
    decide +kernel
  exact hAll n hn

theorem not_space_of_isDigit {c : Char} (h : c.isDigit = true) : isNumeralSpace c = false := by
  obtain ⟨n, hn, rfl⟩ := eq_of_isDigit h
  have hAll : ∀ n < 10, isNumeralSpace (Char.ofNat (48 + n)) = false := by decide +kernel
  exact hAll n hn

theorem isDigit_of_mem_natText {n : Nat} {c : Char} (h : c ∈ natText n) : c.isDigit = true :=
  Nat.isDigit_of_mem_toDigits (by decide) (by decide) h

theorem mem_intText {n : Int} {c : Char} (h : c ∈ intText n) : c = '-' ∨ c.isDigit = true := by
  cases n with
  | ofNat m => exact .inr (isDigit_of_mem_natText h)
  | negSucc m =>
    rcases List.mem_cons.mp h with hSign | hDigit
    · exact .inl hSign
    · exact .inr (isDigit_of_mem_natText hDigit)

theorem intText_ne_nil (n : Int) : intText n ≠ [] := by
  cases n with
  | ofNat m => exact Nat.toDigits_ne_nil
  | negSucc m => exact List.cons_ne_nil _ _

/-- The digits of a number that is not zero do not begin with a zero. -/
theorem head?_natText_ne_zero {n : Nat} (h : 0 < n) : (natText n).head? ≠ some '0' := by
  induction n using Nat.strongRecOn with
  | ind n ih =>
    rw [natText]
    by_cases hOne : n < 10
    · have hAll : ∀ m < 10, 0 < m → [Nat.digitChar m].head? ≠ some '0' := by decide
      rw [Nat.toDigits_of_lt_base hOne]
      exact hAll n hOne h
    · -- the digits of the tenth come first
      have hFront := ih (n / 10) (by omega) (by omega)
      rw [Nat.toDigits_of_base_le (by decide) (by omega),
        List.head?_append, Option.or_of_isSome (by simp)]
      exact hFront

theorem takeMoreDigits_of_isDigit {t : Text} (h : ∀ c ∈ t, c.isDigit = true) :
    takeMoreDigits t = (t.map fun c => c.toNat - 48, []) := by
  induction t with
  | nil => rfl
  | cons c rest ih =>
    have hDigit := h c (by simp)
    have hRest := ih fun d hd => h d (by simp [hd])
    have hUnderscore : c ≠ '_' := by
      rintro rfl
      exact absurd hDigit (by decide)
    unfold takeMoreDigits
    split
    · simp_all
    · simp_all
    · rename_i hCons
      obtain ⟨rfl, rfl⟩ := List.cons.inj hCons
      simp [digitValue?_of_isDigit hDigit, hRest]

theorem takeDigits?_natText (n : Nat) :
    takeDigits? (natText n) = some ((natText n).map fun c => c.toNat - 48, []) := by
  rcases hText : natText n with _ | ⟨c, rest⟩
  · exact absurd hText Nat.toDigits_ne_nil
  · have hDigits : ∀ d ∈ c :: rest, d.isDigit = true := fun d hd =>
      isDigit_of_mem_natText (hText ▸ hd)
    have hRest := takeMoreDigits_of_isDigit fun d hd => hDigits d (List.mem_cons_of_mem c hd)
    simp [takeDigits?, digitValue?_of_isDigit (hDigits c (by simp)), hRest]

theorem ofDigits_natText (n : Nat) : ofDigits ((natText n).map fun c => c.toNat - 48) = n := by
  have hFold : ofDigits ((natText n).map fun c => c.toNat - 48)
      = Nat.ofDigitChars 10 (natText n) 0 := by
    simp only [ofDigits, List.foldl_map, Nat.ofDigitChars_eq_foldl, Nat.mul_comm]
    rfl
  rw [hFold, natText, Nat.ofDigitChars_ten_toDigits]

theorem length_natText_le_iff {n k : Nat} (hPos : 0 < k) :
    (natText n).length ≤ k ↔ n < tenTo k :=
  Nat.length_toDigits_le_iff (by decide) hPos

theorem dropWhile_natText (n : Nat) : (natText n).dropWhile isNumeralSpace = natText n := by
  rcases hText : natText n with _ | ⟨c, rest⟩
  · rfl
  · have hSpace : isNumeralSpace c = false :=
      not_space_of_isDigit (isDigit_of_mem_natText (hText ▸ List.mem_cons_self))
    simp [hSpace]

theorem takeSign_natText (n : Nat) : takeSign (natText n) = (false, natText n) := by
  unfold takeSign
  split
  · rename_i hText
    exact absurd (isDigit_of_mem_natText (hText ▸ List.mem_cons_self)) (by decide)
  · rename_i hText
    exact absurd (isDigit_of_mem_natText (hText ▸ List.mem_cons_self)) (by decide)
  · rfl

theorem readNumeral?_intText (n : Int) :
    readNumeral? (intText n)
      = some ⟨decide (n < 0), (natText n.natAbs).map fun c => c.toNat - 48, []⟩ := by
  cases n with
  | ofNat m =>
    simp [readNumeral?, intText, dropWhile_natText, takeSign_natText, takeDigits?_natText]
  | negSucc m =>
    have hSign : isNumeralSpace '-' = false := by decide
    simp [readNumeral?, intText, hSign, takeSign, takeDigits?_natText]

theorem value_intText (n : Int) : (readNumeral? (intText n)).map Numeral.value = some n := by
  simp only [readNumeral?_intText, Option.map_some, Numeral.value, ofSignedDigits,
    ofDigits_natText]
  by_cases hSign : n < 0
  · simp only [hSign, decide_true, if_true, Option.some.injEq]
    omega
  · simp only [hSign, decide_false, Bool.false_eq_true, if_false, Option.some.injEq]
    omega

end EventLoom.Number
