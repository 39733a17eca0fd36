import EventLoom.Proofs.Acceptance
import EventLoom.Publishing.Bulkhead

/-!
# Admission to a bulkhead

A bulkhead that has been set up has a permit: its number of workers is not below one. This holds of
every kind of number that workers may be counted in. A whole number has as many permits; of
fractions there is never exactly none left.

A task that ends before the next one is submitted gives its permit back, and so does one that has
taken it in vain. So between two of them there is always a permit again, and a task is then turned
away for no other reason than that the bulkhead has been shut down.

## Results

* `hasPermit_ofWorkers` — a bulkhead is set up with a permit.
* `submit_eq_error_iff` — with a permit only a closed bulkhead turns a task away, and keeps it.
-/

namespace EventLoom

open Number

-- ---------------------------------------------------------------------------
-- Numbers of workers
-- ---------------------------------------------------------------------------

namespace Binary64

theorem fraction_den_pos (mantissa : Nat) (exponent : Int) :
    0 < (fraction mantissa exponent).2 := by
  rw [fraction, scaleBy]
  split
  · rw [Nat.one_mul]
    exact twoTo_pos _
  · exact Nat.one_pos

/-- A number without a sign that is not below one has no denominator above its numerator. -/
theorem den_le_num_of_lessThan {mantissa : Nat} {exponent : Int}
    (h : lessThan (.finite false mantissa exponent) 1 = false) :
    (fraction mantissa exponent).2 ≤ (fraction mantissa exponent).1 := by
  rw [fraction, scaleBy]
  simp only [lessThan] at h
  split at h
  · rename_i hExponent
    have hProduct : 1 ≤ mantissa * twoTo exponent.toNat := Int.ofNat_le.mp (by simpa using h)
    split
    · -- the exponent is zero
      have hZero : exponent = 0 := by omega
      subst hZero
      simpa [twoTo] using hProduct
    · rw [Int.neg_neg]
      omega
  · rename_i hExponent
    rw [if_pos (by omega), Nat.one_mul]
    simpa using h

/-- A whole number that is not below one is at least one. -/
theorem one_le_of_toInt? {x : Binary64} {n : Int} (hWhole : x.toInt? = some n)
    (hBelow : x.lessThan 1 = false) : 1 ≤ n := by
  cases x with
  | nan => cases hWhole
  | infinity negative => cases hWhole
  | finite negative mantissa exponent =>
    cases negative with
    | true =>
      -- nothing with a sign is as great as one
      have hPower : (0 : Int) < twoTo (-exponent).toNat := Int.natCast_pos.mpr (twoTo_pos _)
      have hProduct : 0 ≤ (mantissa : Int) * twoTo exponent.toNat :=
        Int.mul_nonneg (Int.natCast_nonneg _) (Int.natCast_nonneg _)
      simp only [lessThan, if_true, Int.neg_mul, Int.one_mul] at hBelow
      split at hBelow <;> rw [decide_eq_false_iff_not] at hBelow <;> omega
    | false =>
      have hQuotient := Nat.div_pos (den_le_num_of_lessThan hBelow) (fraction_den_pos _ _)
      simp only [toInt?] at hWhole
      split at hWhole
      · cases hWhole
        simp only [Bool.false_eq_true, if_false]
        omega
      · cases hWhole

end Binary64

namespace Bulkhead

-- ---------------------------------------------------------------------------
-- Permits
-- ---------------------------------------------------------------------------

/-- A permit is left, or permits are never used up. -/
def HasPermit (b : Bulkhead) : Prop := b.permits ≠ some 0

theorem take?_eq_none_iff {b : Bulkhead} : b.take? = none ↔ ¬ b.HasPermit := by
  rw [HasPermit, take?]
  split
  · rename_i h
    simp [h]
  · rename_i h
    simp [h]
  · rename_i h
    simp [h]

theorem HasPermit.exists_take? {b : Bulkhead} (h : b.HasPermit) :
    ∃ taken, b.take? = some taken := by
  rcases hTake : b.take? with _ | taken
  · exact absurd h (take?_eq_none_iff.mp hTake)
  · exact ⟨taken, rfl⟩

theorem permitsOf_ne_zero {stated : Value} {permits : Option Nat}
    (h : permitsOf stated = .ok permits) : permits ≠ some 0 := by
  obtain ⟨below, hBelow, h⟩ := bind_eq_ok_iff.mp h
  cases below with
  | true => cases h
  | false =>
    cases stated with
    | int n =>
      cases h
      rw [Value.isBelow, Except.ok.injEq, decide_eq_false_iff_not] at hBelow
      intro hNone
      have hZero : n.toNat = 0 := Option.some.inj hNone
      omega
    | bool b =>
      cases h
      cases b with
      | true => exact nofun
      | false => cases hBelow
    | float x =>
      cases h
      intro hNone
      obtain ⟨n, hWhole, hZero⟩ := Option.map_eq_some_iff.mp hNone
      have hOne := Binary64.one_le_of_toInt? hWhole (Except.ok.inj hBelow)
      omega
    | _ =>
      cases h
      exact nofun

/-- **A bulkhead is set up with a permit**, whatever kind of number its workers are counted in. -/
theorem hasPermit_ofWorkers {name stated patience : Value} {b : Bulkhead}
    (h : ofWorkers name stated patience = .ok b) : b.HasPermit := by
  obtain ⟨permits, hPermits, h⟩ := bind_eq_ok_iff.mp h
  cases h
  exact permitsOf_ne_zero hPermits

/-- With a permit, a task is turned away only because the bulkhead has been shut down, and the
permit is there again behind it. -/
theorem submit_eq_error_iff {b : Bulkhead} (hPermit : b.HasPermit) {fault : Fault} :
    b.submit = (b, .error fault) ↔ b.closed = true ∧ fault = .shutDown := by
  obtain ⟨taken, hTake⟩ := hPermit.exists_take?
  simp only [submit, hTake, closed_of_take? hTake, permits_giveBack_take? hTake]
  split
  · rename_i hClosed
    simp [hClosed, eq_comm]
  · rename_i hOpen
    simp [hOpen]

/-- What comes of a task that is submitted with a permit. -/
theorem submit_cases_of_hasPermit {b : Bulkhead} (hPermit : b.HasPermit) :
    (b.closed = true ∧ b.submit = (b, .error .shutDown))
    ∨ (b.closed = false ∧ ∃ taken, taken.giveBack = b ∧ b.submit = (taken, .ok ())) := by
  rcases hSubmit : b.submit with ⟨next, fault | ⟨⟩⟩
  · obtain rfl := submit_of_error hSubmit
    obtain ⟨hClosed, rfl⟩ := (submit_eq_error_iff hPermit).mp hSubmit
    exact .inl ⟨hClosed, rfl⟩
  · obtain ⟨hOpen, hTake⟩ := submit_of_ok hSubmit
    exact .inr ⟨hOpen, next, permits_giveBack_take? hTake, rfl⟩

end Bulkhead

end EventLoom
