import EventLoom.Value.Arithmetic
import Mathlib.Algebra.Order.Field.Basic
import Mathlib.Algebra.Order.Field.Power
import Mathlib.Data.Rat.Cast.Order
import Mathlib.Order.WithBot
import Mathlib.Tactic.Linarith
import Mathlib.Tactic.Positivity

/-!
# Numbers compared with integers

A number is compared with an integer without being rounded: a binary one by moving its power of two
to the other side, a decimal one in the same way, unless the count of its digits already decides.
What this comes to is the order of the rational numbers between the two infinities (`Place`). Every
number but a NaN has a place there (`Value.place?`), and one is below an integer exactly if its
place is (`isBelow_of_place?`).

So to be not below a bound is not the same as to be at or above it (`IsAtLeast`). A binary NaN is
neither, and it is the only value of this kind: a decimal NaN and what is no number cannot be
compared at all.

## Results

* `scaled_lt_iff` — comparing `m · b ^ e` with an integer is comparing integers.
* `Binary64.lessThan_of_place?`, `Decimal.lessThan?_eq` — numbers of either kind are compared by
  their places.
* `isBelow_eq_false_iff` — the values that are not below a bound.
-/

namespace EventLoom

open Number

-- ---------------------------------------------------------------------------
-- Places
-- ---------------------------------------------------------------------------

/-- A number with a sign. -/
def Number.signed (negative : Bool) (x : ℚ) : ℚ := if negative then -x else x

/-- The rational numbers between the two infinities. -/
abbrev Place := WithBot (WithTop ℚ)

namespace Place

/-- The place of a rational number. -/
def ofRat (x : ℚ) : Place := ((x : WithTop ℚ) : Place)

/-- The place of an infinity. -/
def infinity (negative : Bool) : Place := if negative then ⊥ else ((⊤ : WithTop ℚ) : Place)

/-- The place of `± m · b ^ e`. -/
def scaled (negative : Bool) (m b : Nat) (e : Int) : Place :=
  ofRat (signed negative (m * (b : ℚ) ^ e))

@[simp] theorem ofRat_lt_ofRat {x y : ℚ} : ofRat x < ofRat y ↔ x < y :=
  WithBot.coe_lt_coe.trans WithTop.coe_lt_coe

@[simp] theorem ofRat_le_ofRat {x y : ℚ} : ofRat x ≤ ofRat y ↔ x ≤ y :=
  WithBot.coe_le_coe.trans WithTop.coe_le_coe

theorem infinity_lt_ofRat {negative : Bool} {x : ℚ} :
    infinity negative < ofRat x ↔ negative = true := by
  cases negative with
  | true => exact iff_of_true (WithBot.bot_lt_coe _) rfl
  | false => exact iff_of_false (not_lt_of_ge (WithBot.coe_le_coe.mpr le_top)) nofun

end Place

/-- The place of a binary number, unless it is a NaN. -/
def Binary64.place? : Binary64 → Option Place
  | .nan => none
  | .infinity negative => some (.infinity negative)
  | .finite negative mantissa exponent => some (.scaled negative mantissa 2 exponent)

/-- The place of a decimal number, unless it is a NaN. -/
def Decimal.place? : Decimal → Option Place
  | .nan .. => none
  | .infinity negative => some (.infinity negative)
  | .finite negative coefficient exponent => some (.scaled negative coefficient 10 exponent)

/-- The place of a value among the numbers, if it has one. -/
def Value.place? : Value → Option Place
  | .bool b => some (.ofRat b.toInt)
  | .int n => some (.ofRat n)
  | .float x => x.place?
  | .decimal d => d.place?
  | _ => none

/-- The value is a number at or above the bound. -/
def Value.IsAtLeast (v : Value) (bound : Int) : Prop :=
  ∃ place, v.place? = some place ∧ Place.ofRat bound ≤ place

-- ---------------------------------------------------------------------------
-- Moving a power to the other side
-- ---------------------------------------------------------------------------

/-- A number `m · b ^ e` is compared with an integer by comparing integers. -/
theorem scaled_lt_iff {b : Nat} (hb : 0 < b) (m n e : Int) :
    (m : ℚ) * (b : ℚ) ^ e < n ↔
      if 0 ≤ e then m * (b ^ e.toNat : Nat) < n else m < n * (b ^ (-e).toNat : Nat) := by
  split
  · rename_i hExponent
    have hPower : (b : ℚ) ^ e = (b ^ e.toNat : Nat) := by
      rw [Nat.cast_pow, ← zpow_natCast, Int.toNat_of_nonneg hExponent]
    rw [hPower]
    exact_mod_cast Iff.rfl
  · rename_i hExponent
    have hPower : (b : ℚ) ^ e = ((b ^ (-e).toNat : Nat) : ℚ)⁻¹ := by
      rw [Nat.cast_pow, ← zpow_natCast, Int.toNat_of_nonneg (by omega), zpow_neg, inv_inv]
    have hPos : (0 : ℚ) < (b ^ (-e).toNat : Nat) := by
      exact_mod_cast Nat.pow_pos hb
    rw [hPower, mul_inv_lt_iff₀ hPos]
    exact_mod_cast Iff.rfl

/-- The sign may be given to the mantissa. -/
theorem signed_scaled (negative : Bool) (m b : Nat) (e : Int) :
    signed negative (m * (b : ℚ) ^ e)
      = ((if negative then -(m : Int) else m : Int) : ℚ) * (b : ℚ) ^ e := by
  cases negative <;> simp [signed]

/-- **A binary number is below an integer if its place is.** -/
theorem Binary64.lessThan_of_place? {x : Binary64} {place : Place} (h : x.place? = some place)
    (n : Int) : x.lessThan n = decide (place < .ofRat n) := by
  rw [Bool.eq_iff_iff, decide_eq_true_eq]
  cases x with
  | nan => cases h
  | infinity negative =>
    cases h
    exact Place.infinity_lt_ofRat.symm
  | finite negative mantissa exponent =>
    cases h
    rw [Place.scaled, Place.ofRat_lt_ofRat, signed_scaled, scaled_lt_iff (by decide), lessThan]
    split <;> exact decide_eq_true_iff

-- ---------------------------------------------------------------------------
-- Counting digits
-- ---------------------------------------------------------------------------

theorem lt_zpow_length_natText (m : Nat) : (m : ℚ) < (10 : ℚ) ^ ((natText m).length : Int) := by
  have hPos : 0 < (natText m).length := List.length_pos_of_ne_nil Nat.toDigits_ne_nil
  have hBelow : m < 10 ^ (natText m).length := (length_natText_le_iff hPos).mp le_rfl
  rw [zpow_natCast]
  exact_mod_cast hBelow

theorem zpow_length_natText_le {m : Nat} (h : m ≠ 0) :
    (10 : ℚ) ^ ((natText m).length - 1 : Int) ≤ m := by
  have hPos : 0 < (natText m).length := List.length_pos_of_ne_nil Nat.toDigits_ne_nil
  have hAbove : 10 ^ ((natText m).length - 1) ≤ m := by
    by_cases hOne : (natText m).length = 1
    · rw [hOne]
      exact Nat.one_le_iff_ne_zero.mpr h
    · refine not_lt.mp fun hBelow => ?_
      have hShort := (length_natText_le_iff (n := m) (k := (natText m).length - 1) (by omega)).mpr
        hBelow
      omega
  have hCast : ((natText m).length - 1 : Int) = ((natText m).length - 1 : Nat) := by omega
  rw [hCast, zpow_natCast]
  exact_mod_cast hAbove

/-- The digits before the point say between which powers of ten a number lies. -/
theorem scaled_between {m : Nat} (h : m ≠ 0) (e : Int) :
    (10 : ℚ) ^ ((natText m).length + e - 1) ≤ m * (10 : ℚ) ^ e
    ∧ m * (10 : ℚ) ^ e < (10 : ℚ) ^ ((natText m).length + e) := by
  have hTen : (10 : ℚ) ≠ 0 := by norm_num
  have hPos : (0 : ℚ) < 10 ^ e := by positivity
  constructor
  · rw [add_sub_right_comm, zpow_add₀ hTen]
    exact mul_le_mul_of_nonneg_right (zpow_length_natText_le h) hPos.le
  · rw [zpow_add₀ hTen]
    exact mul_lt_mul_of_pos_right (lt_zpow_length_natText m) hPos

/-- A number with more digits before the point than an integer has is greater. -/
theorem abs_lt_scaled {m : Nat} (h : m ≠ 0) {n e : Int}
    (hLength : ((natText n.natAbs).length : Int) < (natText m).length + e) :
    |(n : ℚ)| < m * (10 : ℚ) ^ e := by
  have hAbs : |(n : ℚ)| = (n.natAbs : ℚ) := by
    rw [Nat.cast_natAbs, Int.cast_abs]
  calc |(n : ℚ)| = (n.natAbs : ℚ) := hAbs
    _ < (10 : ℚ) ^ ((natText n.natAbs).length : Int) := lt_zpow_length_natText _
    _ ≤ (10 : ℚ) ^ ((natText m).length + e - 1) := zpow_le_zpow_right₀ (by norm_num) (by omega)
    _ ≤ m * (10 : ℚ) ^ e := (scaled_between h e).1

/-- A number without a digit before the point is below one. -/
theorem scaled_lt_one {m : Nat} (h : m ≠ 0) {e : Int} (hLength : (natText m).length + e ≤ 0) :
    m * (10 : ℚ) ^ e < 1 := by
  calc m * (10 : ℚ) ^ e < (10 : ℚ) ^ ((natText m).length + e) := (scaled_between h e).2
    _ ≤ (10 : ℚ) ^ (0 : Int) := zpow_le_zpow_right₀ (by norm_num) hLength
    _ = 1 := zpow_zero _

/-- A number greater than an integer on either side of zero is below it only if it is negative. -/
theorem signed_lt_of_abs_lt {x : ℚ} {n : Int} (h : |(n : ℚ)| < x) (negative : Bool) :
    signed negative x < n ↔ negative = true := by
  obtain ⟨hBelow, hAbove⟩ := abs_lt.mp h
  cases negative with
  | true => exact iff_of_true hBelow rfl
  | false => exact iff_of_false hAbove.not_gt nofun

/-- There is no integer between a number below one and zero. -/
theorem signed_lt_of_lt_one {x : ℚ} (hPos : 0 < x) (hOne : x < 1) (n : Int) (negative : Bool) :
    signed negative x < n ↔ if negative then 0 ≤ n else 0 < n := by
  cases negative with
  | true =>
    constructor
    · intro h
      have hAbove : (-1 : ℚ) < n := (neg_lt_neg hOne).trans h
      have hInt : (-1 : Int) < n := by exact_mod_cast hAbove
      exact Int.lt_iff_add_one_le.mp hInt
    · intro h
      have hLeast : (0 : ℚ) ≤ n := by exact_mod_cast h
      exact (neg_neg_of_pos hPos).trans_le hLeast
  | false =>
    constructor
    · intro h
      exact_mod_cast hPos.trans h
    · intro h
      have hLeast : (1 : ℚ) ≤ n := by exact_mod_cast h
      exact hOne.trans_le hLeast

theorem Decimal.lessThan?_finite (negative : Bool) (m : Nat) (e n : Int) :
    lessThan? (.finite negative m e) n
      = some (decide (signed negative (m * (10 : ℚ) ^ e) < n)) := by
  rw [lessThan?]
  split
  · rename_i hZero
    cases negative <;> simp [hZero, signed]
  rename_i hZero
  have hPos : (0 : ℚ) < m * (10 : ℚ) ^ e := by positivity
  split
  · rename_i hLong
    simp [signed_lt_of_abs_lt (abs_lt_scaled hZero hLong)]
  split
  · rename_i hShort
    rw [Option.some.injEq, Bool.eq_iff_iff, decide_eq_true_iff,
      signed_lt_of_lt_one hPos (scaled_lt_one hZero hShort)]
    cases negative <;> exact decide_eq_true_iff
  · have hScaled := signed_scaled negative m 10 e
    rw [Nat.cast_ofNat] at hScaled
    have hLess := scaled_lt_iff (b := 10) (by decide) (if negative then -(m : Int) else m) n e
    rw [Nat.cast_ofNat] at hLess
    rw [hScaled]
    split
    · rename_i hExponent
      rw [if_pos hExponent] at hLess
      exact congrArg some (decide_eq_decide.mpr hLess.symm)
    · rename_i hExponent
      rw [if_neg hExponent] at hLess
      exact congrArg some (decide_eq_decide.mpr hLess.symm)

/-- **A decimal number is below an integer if its place is**; a NaN cannot be compared. -/
theorem Decimal.lessThan?_eq (d : Decimal) (n : Int) :
    d.lessThan? n = d.place?.map fun place => decide (place < .ofRat n) := by
  cases d with
  | nan => rfl
  | infinity negative =>
    refine congrArg some ?_
    rw [Bool.eq_iff_iff, decide_eq_true_eq, Place.infinity_lt_ofRat]
  | finite negative coefficient exponent =>
    rw [lessThan?_finite]
    refine congrArg some (decide_eq_decide.mpr ?_)
    rw [Place.scaled, Place.ofRat_lt_ofRat, Nat.cast_ofNat]

-- ---------------------------------------------------------------------------
-- Values that are not below a bound
-- ---------------------------------------------------------------------------

namespace Value

/-- **A value with a place is below a bound if its place is.** -/
theorem isBelow_of_place? {v : Value} {place : Place} (h : v.place? = some place) (bound : Int) :
    v.isBelow bound = .ok (decide (place < .ofRat bound)) := by
  cases v with
  | bool b =>
    cases h
    refine congrArg Except.ok (decide_eq_decide.mpr ?_)
    rw [Place.ofRat_lt_ofRat, Int.cast_lt]
  | int n =>
    cases h
    refine congrArg Except.ok (decide_eq_decide.mpr ?_)
    rw [Place.ofRat_lt_ofRat, Int.cast_lt]
  | float x => exact congrArg Except.ok (Binary64.lessThan_of_place? h bound)
  | decimal d =>
    have hPlace : d.place? = some place := h
    rw [isBelow, d.lessThan?_eq, hPlace]
    rfl
  | _ => cases h

/-- Of the values without a place only a binary NaN can be compared. -/
theorem isBelow_of_place?_eq_none {v : Value} (h : v.place? = none) (bound : Int) {below : Bool} :
    v.isBelow bound = .ok below ↔ v = .float .nan ∧ below = false := by
  cases v with
  | float x =>
    cases x with
    | nan =>
      constructor
      · rintro ⟨⟩
        exact ⟨rfl, rfl⟩
      · rintro ⟨-, rfl⟩
        rfl
    | _ => cases h
  | decimal d =>
    have hPlace : d.place? = none := h
    rw [isBelow, d.lessThan?_eq, hPlace]
    exact iff_of_false nofun nofun
  | bool _ | int _ => cases h
  | _ => exact iff_of_false nofun nofun

/-- **A value that is not below a bound is a number at or above it, or a binary NaN.** -/
theorem isBelow_eq_false_iff {v : Value} {bound : Int} :
    v.isBelow bound = .ok false ↔ v.IsAtLeast bound ∨ v = .float .nan := by
  rcases hPlace : v.place? with _ | place
  · have hNowhere : ¬v.IsAtLeast bound := by
      rintro ⟨place, hSome, -⟩
      rw [hPlace] at hSome
      cases hSome
    rw [isBelow_of_place?_eq_none hPlace, and_iff_left rfl, or_iff_right hNowhere]
  · have hNumber : v ≠ .float .nan := by
      rintro rfl
      cases hPlace
    rw [isBelow_of_place? hPlace, or_iff_left hNumber, IsAtLeast, hPlace]
    simp [not_lt]

theorem isAtLeast_int {n bound : Int} : (int n).IsAtLeast bound ↔ bound ≤ n := by
  constructor
  · rintro ⟨place, ⟨⟩, hLe⟩
    exact_mod_cast Place.ofRat_le_ofRat.mp hLe
  · intro h
    exact ⟨_, rfl, Place.ofRat_le_ofRat.mpr (by exact_mod_cast h)⟩

theorem not_isAtLeast_nan (bound : Int) : ¬(float .nan).IsAtLeast bound := by
  rintro ⟨place, ⟨⟩, -⟩

end Value

end EventLoom
