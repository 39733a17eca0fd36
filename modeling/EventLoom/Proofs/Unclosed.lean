import Mathlib.Data.Nat.Find
import EventLoom.Proofs.CursorWalk

/-!
# Unclosed placeholders

A text does not compile if it has an opening token that nothing closes. Whether it has one can be
said of the text as a whole: the opening token stands at some place and no closing token stands two
places further on or later (`Unclosed`). Nothing in that depends on where a cursor comes to stand;
the place may lie inside of a key, or at an odd place of a run of braces.

The two agree because a placeholder hides nothing. An opening token inside of a placeholder lies
before its closing token, which closes it; and an opening token cannot overlap with the end of a
placeholder, as that consists of other characters. So the unclosed places of a text are those of
the text behind its first placeholder (`unclosed_of_hole`), and this carries the induction.

## Results

* `unclosed_of_hole` — the unclosed places of a text lie behind its first placeholder.
* `compileFrom_eq_error_iff` — compiling fails at the first unclosed place, and only there.
* `compile_take_of_firstUnclosed` — what comes before the first unclosed place compiles.
* `compile_error_iff_unclosed` — all of this for a whole text and for the walk through it.
-/

namespace EventLoom

open Text

-- ---------------------------------------------------------------------------
-- Unclosed places
-- ---------------------------------------------------------------------------

/-- An opening token stands at the place `p`, and no closing token behind it. -/
def Unclosed (t : Text) (p : Nat) : Prop :=
  StandsAt openToken t p ∧ ∀ q, p + 2 ≤ q → ¬ StandsAt closeToken t q

/-- The place is unclosed, and no place before it is. -/
def FirstUnclosed (t : Text) (p : Nat) : Prop := Unclosed t p ∧ ∀ q < p, ¬ Unclosed t q

theorem not_unclosed_of_plain {t : Text} (h : scan t = .plain) (p : Nat) : ¬ Unclosed t p := by
  intro hUnclosed
  exact scan_eq_plain_iff.mp h (infix_iff_standsAt.mpr ⟨p, hUnclosed.1⟩)

/-- Where the scan finds nothing that closes, the first opening token is the unclosed place. -/
theorem firstUnclosed_of_unclosed {t before : Text} (h : scan t = .unclosed before) :
    FirstUnclosed t before.length := by
  obtain ⟨rest, hOpen, hClose⟩ := breakAt?_of_unclosed h
  have hText := breakAt?_eq_some hOpen
  refine ⟨⟨?_, ?_⟩, ?_⟩
  · rw [StandsAt, hText, List.append_assoc, List.drop_left]
    exact List.prefix_append ..
  · intro q hq hStands
    apply hClose
    obtain ⟨d, rfl⟩ := Nat.exists_eq_add_of_le hq
    rw [infix_iff_standsAt]
    refine ⟨d, ?_⟩
    have hRest : t.drop (before.length + 2) = rest := drop_of_breakAt? hOpen
    rwa [← standsAt_drop, hRest] at hStands
  · intro q hq hUnclosed
    have := le_of_standsAt openToken_ne_nil hOpen hUnclosed.1
    omega

/-- The unclosed places of the rest of a text are those of the whole text from there on. -/
theorem unclosed_drop {t : Text} {n p : Nat} : Unclosed (t.drop n) p ↔ Unclosed t (n + p) := by
  rw [Unclosed, Unclosed, standsAt_drop]
  refine and_congr_right fun _ => ?_
  constructor
  · intro h q hq hStands
    obtain ⟨d, rfl⟩ := Nat.exists_eq_add_of_le (show n ≤ q by omega)
    exact h d (by omega) (standsAt_drop.mpr hStands)
  · intro h q hq hStands
    exact h (n + q) (by omega) (standsAt_drop.mp hStands)

section Hole

variable {t before key after : Text} (h : scan t = .hole before key after)
include h

/-- The closing token of the first placeholder. -/
theorem standsAt_close_of_hole : StandsAt closeToken t (before.length + 2 + key.length) := by
  have hFront : t = (before ++ openToken ++ key) ++ (closeToken ++ after) := by
    rw [scan_eq_hole h]
    simp only [placeholder, List.append_assoc]
  have hLength : (before ++ openToken ++ key).length = before.length + 2 + key.length := by
    simp only [openToken, List.length_append, List.length_cons, List.length_nil]
  rw [StandsAt, hFront, ← hLength, List.drop_left]
  exact List.prefix_append ..

/-- No opening token stands before the first placeholder. -/
theorem le_of_standsAt_open {p : Nat} (hStands : StandsAt openToken t p) : before.length ≤ p :=
  le_of_standsAt openToken_ne_nil (breakAt?_of_hole h) hStands

/-- An unclosed place is not inside of the first placeholder: the closing token would close it, or
an opening brace would have to be a closing one. -/
theorem behind_of_unclosed {p : Nat} (hUnclosed : Unclosed t p) :
    before.length + (placeholder key).length ≤ p := by
  obtain ⟨hStands, hNone⟩ := hUnclosed
  have hFrom := le_of_standsAt_open h hStands
  have hClose := standsAt_close_of_hole h
  have hLength := length_placeholder key
  have hOpenAt := standsAt_pair.mp hStands
  have hCloseAt := standsAt_pair.mp hClose
  refine Nat.le_of_not_lt fun hLt => ?_
  by_cases hInside : p + 2 ≤ before.length + 2 + key.length
  · exact hNone _ hInside hClose
  · have hPlace : p + 1 = before.length + 2 + key.length ∨ p = before.length + 2 + key.length
        ∨ p = before.length + 2 + key.length + 1 := by omega
    rcases hPlace with hPlace | hPlace | hPlace
    · rw [hPlace, hCloseAt.1] at hOpenAt
      simp at hOpenAt
    · rw [hPlace, hCloseAt.1] at hOpenAt
      simp at hOpenAt
    · rw [hPlace, hCloseAt.2] at hOpenAt
      simp at hOpenAt

/-- A placeholder hides no unclosed place and makes none. -/
theorem unclosed_of_hole (p : Nat) :
    Unclosed t p ↔
      ∃ q, p = before.length + (placeholder key).length + q ∧ Unclosed after q := by
  constructor
  · intro hUnclosed
    obtain ⟨q, rfl⟩ := Nat.exists_eq_add_of_le (behind_of_unclosed h hUnclosed)
    refine ⟨q, rfl, ?_⟩
    rw [← drop_of_scan h]
    exact unclosed_drop.mpr hUnclosed
  · rintro ⟨q, rfl, hUnclosed⟩
    rw [← drop_of_scan h] at hUnclosed
    exact unclosed_drop.mp hUnclosed

end Hole

theorem firstUnclosed_of_hole {t before key after : Text} (h : scan t = .hole before key after)
    (p : Nat) :
    FirstUnclosed t p ↔
      ∃ q, p = before.length + (placeholder key).length + q ∧ FirstUnclosed after q := by
  constructor
  · rintro ⟨hUnclosed, hFirst⟩
    obtain ⟨q, rfl, hAfter⟩ := (unclosed_of_hole h p).mp hUnclosed
    refine ⟨q, rfl, hAfter, ?_⟩
    intro r hr hEarlier
    exact hFirst _ (Nat.add_lt_add_left hr _) ((unclosed_of_hole h _).mpr ⟨r, rfl, hEarlier⟩)
  · rintro ⟨q, rfl, hAfter, hFirst⟩
    refine ⟨(unclosed_of_hole h _).mpr ⟨q, rfl, hAfter⟩, ?_⟩
    intro r hr hEarlier
    obtain ⟨d, rfl, hUnclosed⟩ := (unclosed_of_hole h r).mp hEarlier
    exact hFirst d (by omega) hUnclosed

/-- If there is an unclosed place at all, there is a first one. -/
theorem exists_firstUnclosed {t : Text} (h : ∃ p, Unclosed t p) : ∃ p, FirstUnclosed t p := by
  classical
  exact ⟨Nat.find h, Nat.find_spec h, fun q hq => Nat.find_min h hq⟩

theorem firstUnclosed_unique {t : Text} {p q : Nat} (hp : FirstUnclosed t p)
    (hq : FirstUnclosed t q) : p = q := by
  have hLe : ¬ q < p := fun hLt => hp.2 q hLt hq.1
  have hGe : ¬ p < q := fun hLt => hq.2 p hLt hp.1
  omega

-- ---------------------------------------------------------------------------
-- Where compiling fails
-- ---------------------------------------------------------------------------

theorem map_eq_error_iff {α β : Type} {outcome : Except Fault α} {f : α → β} {fault : Fault} :
    outcome.map f = .error fault ↔ outcome = .error fault := by
  cases outcome <;> simp [Except.map]

namespace Template

/-- Compiling fails at the first unclosed place, counted from where the text begins. -/
theorem compileFrom_eq_error_iff {offset : Nat} {t : Text} {fault : Fault} :
    compileFrom offset t = .error fault ↔
      ∃ p, fault = .malformedTemplate (offset + p) ∧ FirstUnclosed t p := by
  induction hLength : t.length using Nat.strong_induction_on generalizing offset t with
  | _ n ih =>
    cases hScan : scan t with
    | plain =>
      rw [compileFrom_of_plain hScan]
      constructor
      · intro h
        cases h
      · rintro ⟨p, -, hFirst⟩
        exact absurd hFirst.1 (not_unclosed_of_plain hScan p)
    | unclosed before =>
      have hFound := firstUnclosed_of_unclosed hScan
      rw [compileFrom_of_unclosed hScan]
      constructor
      · intro h
        cases h
        exact ⟨before.length, rfl, hFound⟩
      · rintro ⟨p, rfl, hFirst⟩
        rw [firstUnclosed_unique hFirst hFound]
    | hole before key after =>
      have hAfter := @ih after.length (hLength ▸ length_of_scan hScan)
        (offset + before.length + (placeholder key).length) after rfl
      rw [compileFrom_of_hole hScan, map_eq_error_iff, hAfter]
      constructor
      · rintro ⟨q, rfl, hFirst⟩
        refine ⟨before.length + (placeholder key).length + q, ?_,
          (firstUnclosed_of_hole hScan _).mpr ⟨q, rfl, hFirst⟩⟩
        congr 1
        omega
      · rintro ⟨p, rfl, hFirst⟩
        obtain ⟨q, rfl, hFirstAfter⟩ := (firstUnclosed_of_hole hScan p).mp hFirst
        refine ⟨q, ?_, hFirstAfter⟩
        congr 1
        omega

theorem compile_eq_error_iff {t : Text} {fault : Fault} :
    compile t = .error fault ↔ ∃ p, fault = .malformedTemplate p ∧ FirstUnclosed t p := by
  rw [compile, compileFrom_eq_error_iff]
  simp only [Nat.zero_add]

theorem compile_eq_ok_iff {t : Text} :
    (∃ result, compile t = .ok result) ↔ ∀ p, ¬ Unclosed t p := by
  constructor
  · rintro ⟨result, hOk⟩ p hUnclosed
    obtain ⟨q, hFirst⟩ := exists_firstUnclosed ⟨p, hUnclosed⟩
    rw [compile_eq_error_iff.mpr ⟨q, rfl, hFirst⟩] at hOk
    cases hOk
  · intro h
    cases hCompile : compile t with
    | ok result => exact ⟨result, rfl⟩
    | error fault =>
      obtain ⟨p, -, hFirst⟩ := compile_eq_error_iff.mp hCompile
      exact absurd hFirst.1 (h p)

/-- What comes before the first unclosed place compiles. -/
theorem compile_take_of_firstUnclosed {t : Text} {p : Nat} (h : FirstUnclosed t p) :
    ∃ result, compile (t.take p) = .ok result := by
  rw [compile_eq_ok_iff]
  intro q hUnclosed
  obtain ⟨hStands, hNone⟩ := hUnclosed
  have hOpenAt := standsAt_pair.mp h.1.1
  have hChars := standsAt_pair.mp hStands
  rw [List.getElem?_take, List.getElem?_take] at hChars
  have hBound : q + 1 < p := by
    refine Nat.lt_of_not_le fun hLe => ?_
    rw [if_neg (show ¬ q + 1 < p by omega)] at hChars
    simp at hChars
  rw [if_pos (show q < p by omega), if_pos hBound] at hChars
  -- the place is closed in the whole text, and what closes it lies before `p` as well
  apply h.2 q (by omega)
  refine ⟨standsAt_pair.mpr hChars, ?_⟩
  intro r hr hClose
  have hCloseChars := standsAt_pair.mp hClose
  by_cases hInside : r + 1 < p
  · apply hNone r hr
    rw [closeToken, standsAt_pair, List.getElem?_take, List.getElem?_take, if_pos hInside,
      if_pos (show r < p by omega)]
    exact hCloseChars
  · by_cases hBehind : p + 2 ≤ r
    · exact h.1.2 r hBehind hClose
    · have hPlace : r + 1 = p ∨ r = p ∨ r = p + 1 := by omega
      rcases hPlace with rfl | rfl | rfl
      · rw [hCloseChars.2] at hOpenAt
        simp at hOpenAt
      · rw [hCloseChars.1] at hOpenAt
        simp at hOpenAt
      · rw [hCloseChars.1] at hOpenAt
        simp at hOpenAt

/-- **Compiling fails exactly for unclosed placeholders.** A text does not compile if and only if
it has an unclosed place. Then the fault carries the first such place, and what comes before it
compiles. There is no other way to fail: what a cursor collects on its way through a text always
passes the check that literals and placeholders alternate, and is the compiled template. -/
theorem compile_error_iff_unclosed (raw : Text) :
    ((∃ fault, compile raw = .error fault) ↔ ∃ p, Unclosed raw p)
    ∧ (∀ fault, compile raw = .error fault →
      ∃ p, fault = .malformedTemplate p ∧ Unclosed raw p ∧ (∀ q < p, ¬ Unclosed raw q)
        ∧ ∃ front, compile (raw.take p) = .ok front)
    ∧ (∀ fault, collect raw = .error fault ↔ compile raw = .error fault)
    ∧ ∀ list, collect raw = .ok list →
      ∃ t, TemplateOf.ofSegments list = .ok t ∧ compile raw = .ok t := by
  refine ⟨⟨?_, ?_⟩, ?_, ?_, ?_⟩
  · rintro ⟨fault, hFault⟩
    obtain ⟨p, -, hFirst⟩ := compile_eq_error_iff.mp hFault
    exact ⟨p, hFirst.1⟩
  · intro hUnclosed
    obtain ⟨p, hFirst⟩ := exists_firstUnclosed hUnclosed
    exact ⟨.malformedTemplate p, compile_eq_error_iff.mpr ⟨p, rfl, hFirst⟩⟩
  · intro fault hFault
    obtain ⟨p, hEq, hFirst⟩ := compile_eq_error_iff.mp hFault
    exact ⟨p, hEq, hFirst.1, hFirst.2, compile_take_of_firstUnclosed hFirst⟩
  · intro fault
    rw [collect_eq_map_segments, map_eq_error_iff]
  · intro list hList
    exact ofSegments_of_collect hList

/-- The brace that is left over behind a placeholder is no part of the next opening token. -/
theorem compile_error_behind_brace :
    ∃ fault, compile "\x7b\x7ba\x7d\x7d\x7d\x7b\x7bb\x7d".toList = .error fault := by
  obtain ⟨⟨-, hFails⟩, -⟩ :=
    compile_error_iff_unclosed "\x7b\x7ba\x7d\x7d\x7d\x7b\x7bb\x7d".toList
  refine hFails ⟨6, ?_, ?_⟩
  · rw [StandsAt]
    decide
  · intro q hq hStands
    have hClose : ¬ closeToken <:+: ['b', '}'] := by decide
    apply hClose
    obtain ⟨d, rfl⟩ := Nat.exists_eq_add_of_le hq
    exact infix_iff_standsAt.mpr ⟨d, standsAt_drop.mpr hStands⟩

end Template

end EventLoom
