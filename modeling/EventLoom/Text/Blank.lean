import EventLoom.Text.Basic

/-!
# Blank characters

White space is what Unicode calls so (category Zs and the bidirectional classes WS, B and S), so
the four information separators 1C to 1F and the next-line character 85 are blank, and the zero
width space is not.

## Results

* `strip_eq_nil_iff` — a text is blank exactly when nothing is left of it after stripping.
* `trimBy_of_forall` — a text without characters of the class stays as it is.
-/

namespace EventLoom.Text

/-- The blank code points as closed intervals, in increasing order. -/
def blankRanges : List (Nat × Nat) := [
  (0x09, 0x0D), (0x1C, 0x20), (0x85, 0x85), (0xA0, 0xA0), (0x1680, 0x1680), (0x2000, 0x200A),
  (0x2028, 0x2029), (0x202F, 0x202F), (0x205F, 0x205F), (0x3000, 0x3000)]

/-- Whether `c` is white space. -/
def isBlankChar (c : Char) : Bool := liesIn blankRanges c

/-- Whether the text holds nothing but white space. -/
def isBlank (t : Text) : Bool := t.all isBlankChar

/-- Drop the characters of the class `p` from both ends. -/
def trimBy (p : Char → Bool) (t : Text) : Text :=
  ((t.dropWhile p).reverse.dropWhile p).reverse

/-- The text without the white space at its ends. -/
def strip (t : Text) : Text := trimBy isBlankChar t

theorem dropWhile_eq_nil_iff_all (p : Char → Bool) (t : Text) :
    t.dropWhile p = [] ↔ t.all p = true := by
  induction t with
  | nil => simp
  | cons c rest ih =>
    by_cases hc : p c = true <;> simp_all

theorem trimBy_eq_nil_iff (p : Char → Bool) (t : Text) : trimBy p t = [] ↔ t.all p = true := by
  rw [trimBy, List.reverse_eq_nil_iff, dropWhile_eq_nil_iff_all, List.all_reverse]
  constructor
  · intro h
    rw [← dropWhile_eq_nil_iff_all]
    rcases hRest : t.dropWhile p with _ | ⟨c, rest⟩
    · rfl
    · -- the first character that stays is not in the class, so not all that stay are
      have hHead : p c = false := by
        have := List.head_dropWhile_not p (l := t) (by simp [hRest])
        simpa [hRest] using this
      rw [hRest] at h
      simp [hHead] at h
  · intro h
    rw [(dropWhile_eq_nil_iff_all p t).2 h]
    rfl

theorem trimBy_of_forall {p : Char → Bool} {t : Text} (h : ∀ c ∈ t, p c = false) :
    trimBy p t = t := by
  have hDrop : ∀ u : Text, (∀ c ∈ u, p c = false) → u.dropWhile p = u := by
    intro u hu
    cases u with
    | nil => rfl
    | cons c rest => simp [hu c (by simp)]
  rw [trimBy, hDrop t h, hDrop t.reverse (by simpa using h), List.reverse_reverse]

theorem strip_eq_nil_iff (t : Text) : strip t = [] ↔ isBlank t = true :=
  trimBy_eq_nil_iff isBlankChar t

end EventLoom.Text
