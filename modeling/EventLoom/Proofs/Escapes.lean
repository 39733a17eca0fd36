import EventLoom.Json.Writer
import EventLoom.Proofs.Tokens

/-!
# What escaping leaves of a text

JSON writes most characters as they are and the others as escape sequences, which consist of quotes,
backslashes, letters and digits (`isEscapeSign`). So a character that is none of these is written
for itself only. Where it stands does not change either: it stays at the end if it was there, and
stays beside another one (`pair_infix_escape`), since nothing is written between two characters that
need no escape.

## Results

* `mem_escapeChar` — what one character is written with.
* `count_escape`, `getLast?_escape_eq_some`, `pair_infix_escape` — a character that is no sign of
  an escape sequence stays where it is.
-/

namespace EventLoom.Json

open Text

/-- Whether the character may belong to an escape sequence. -/
def isEscapeSign (c : Char) : Bool := c = '"' || c = '\\' || c.isAlphanum

/-- A character is written as it is, or with the signs of an escape sequence. -/
theorem mem_escapeChar {c d : Char} (h : c ∈ escapeChar d) :
    (c = d ∧ isPlainChar d = true) ∨ isEscapeSign c = true := by
  cases hPlain : isPlainChar d with
  | true =>
    rw [escapeChar_of_plain hPlain, List.mem_singleton] at h
    exact .inl ⟨h, rfl⟩
  | false =>
    right
    -- what needs an escape is ASCII
    have hAscii : d.toNat < 128 := by
      refine Nat.lt_of_not_le fun hLe => ?_
      have hNe : ∀ e : Char, e.toNat < 128 → d ≠ e := by
        rintro e he rfl
        omega
      have hSpace : 0x20 ≤ d.toNat := by omega
      simp [isPlainChar, hNe '"' (by decide), hNe '\\' (by decide), hSpace] at hPlain
    have hAll : ∀ n < 128, isPlainChar (Char.ofNat n) = false →
        (escapeChar (Char.ofNat n)).all isEscapeSign = true := by decide +kernel
    have hSigns := hAll d.toNat hAscii
    rw [Char.ofNat_toNat] at hSigns
    exact List.all_eq_true.mp (hSigns hPlain) c h

theorem escape_cons (d : Char) (rest : Text) : escape (d :: rest) = escapeChar d ++ escape rest :=
  rfl

theorem escape_append (t u : Text) : escape (t ++ u) = escape t ++ escape u := List.flatMap_append

theorem escapeChar_ne_nil (d : Char) : escapeChar d ≠ [] :=
  List.length_pos_iff.mp (one_le_length_escapeChar d)

section Unescaped

variable {c : Char} (hPlain : isPlainChar c = true) (hSign : isEscapeSign c = false)
include hSign

theorem eq_of_mem_escapeChar {d : Char} (h : c ∈ escapeChar d) : c = d := by
  rcases mem_escapeChar h with ⟨hSame, -⟩ | hOther
  · exact hSame
  · rw [hSign] at hOther
    cases hOther

theorem head?_escape_eq_some {t : Text} (h : (escape t).head? = some c) : t.head? = some c := by
  cases t with
  | nil => exact h
  | cons d rest =>
    rw [escape_cons, List.head?_append, List.head?_eq_some_head (escapeChar_ne_nil d),
      Option.some_or, ← List.head?_eq_some_head] at h
    rw [List.head?_cons, ← eq_of_mem_escapeChar hSign (List.mem_of_head? h)]

/-- A text ends with the character if it does when it is written. -/
theorem getLast?_escape_eq_some {t : Text} (h : (escape t).getLast? = some c) :
    t.getLast? = some c := by
  rcases List.eq_nil_or_concat t with rfl | ⟨front, d, rfl⟩
  · exact h
  · have hOne : escape [d] = escapeChar d := List.append_nil _
    rw [List.concat_eq_append, escape_append, hOne, List.getLast?_append,
      List.getLast?_eq_some_getLast (escapeChar_ne_nil d), Option.some_or,
      ← List.getLast?_eq_some_getLast] at h
    rw [List.concat_eq_append, List.getLast?_concat,
      ← eq_of_mem_escapeChar hSign (List.mem_of_getLast? h)]

include hPlain

/-- **A character that is no sign of an escape sequence** is written as often as it is there. -/
theorem count_escape (t : Text) : (escape t).count c = t.count c := by
  induction t with
  | nil => rfl
  | cons d rest ih =>
    rw [escape_cons, List.count_append, ih, List.count_cons, Nat.add_comm]
    congr 1
    by_cases hSame : d = c
    · subst hSame
      rw [escapeChar_of_plain hPlain]
      simp
    · have hNone : c ∉ escapeChar d := fun hIn => hSame (eq_of_mem_escapeChar hSign hIn).symm
      rw [List.count_eq_zero.mpr hNone]
      simp [hSame]

/-- **Two in a row** stay in a row, and no others come about. -/
theorem pair_infix_escape (t : Text) : [c, c] <:+: escape t ↔ [c, c] <:+: t := by
  have hHead : ∀ rest : Text, (escape rest).head? = some c ↔ rest.head? = some c := by
    intro rest
    refine ⟨head?_escape_eq_some hSign, fun h => ?_⟩
    obtain ⟨tail, rfl⟩ := List.head?_eq_some_iff.mp h
    rw [escape_cons, escapeChar_of_plain hPlain]
    rfl
  induction t with
  | nil => rfl
  | cons d rest ih =>
    rw [escape_cons, show d :: rest = [d] ++ rest from rfl, pair_infix_append, pair_infix_append,
      hHead]
    by_cases hSame : d = c
    · subst hSame
      rw [escapeChar_of_plain hPlain]
      exact or_congr_right (or_congr_left ih)
    · have hNone : c ∉ escapeChar d := fun hIn => hSame (eq_of_mem_escapeChar hSign hIn).symm
      have hPair : ¬ [c, c] <:+: escapeChar d := fun h => hNone (h.subset (List.mem_cons_self ..))
      have hOne : ¬ [c, c] <:+: [d] := fun h => absurd h.length_le (by simp)
      have hLast : (escapeChar d).getLast? ≠ some c := fun h => hNone (List.mem_of_getLast? h)
      have hOwn : [d].getLast? ≠ some c := by simpa using hSame
      simp only [hPair, hOne, hLast, hOwn, false_and, false_or, or_false]
      exact ih

end Unescaped

end EventLoom.Json
