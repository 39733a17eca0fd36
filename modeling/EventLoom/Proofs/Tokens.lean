import EventLoom.Text.Basic

/-!
# Where tokens stand

`breakAt?` finds the first place of a token and `replaceAll` replaces all of its places. Both read
a text from the left, so that of two places that overlap only the first one counts. This module
says what they find without following the reading: by the places where the token stands
(`StandsAt`), and by the token being a piece of a text (`<:+:`).

A token can also stand across the seam of two texts that are put together. For a token that is one
character twice this needs that character on both sides of the seam (`pair_infix_append`). A token
none of whose ends is also its beginning (`Unbordered`) does not overlap with itself, so a
place of it is the first one as soon as the token is no piece of the text before it.

## Results

* `breakAt?_eq_some_iff` — `breakAt?` returns the parts around the first place of the token.
* `breakAt?_eq_none_iff` — `breakAt?` returns nothing exactly if the token stands nowhere.
* `replaceAll_append_token` — replacing a token goes on behind its first place.
* `replaceAll_of_not_infix` — a text without the token stays as it is.
* `replaceAll_append_of_not_mem` — a character that is not in the token divides the replacing.
* `replaced_replaceAll` — replacing as a derivation, from which follows what replacing keeps:
  `Replaced.count_eq`, `Replaced.getLast?_eq`, `Replaced.pair_was_there`.
-/

namespace EventLoom.Text

variable {token t before after : Text}

-- ---------------------------------------------------------------------------
-- Places
-- ---------------------------------------------------------------------------

/-- The token stands at the place `p` of the text. -/
def StandsAt (token t : Text) (p : Nat) : Prop := token <+: t.drop p

theorem infix_iff_standsAt : token <:+: t ↔ ∃ p, StandsAt token t p := by
  rw [List.infix_iff_prefix_suffix]
  constructor
  · rintro ⟨u, hPrefix, hSuffix⟩
    refine ⟨t.length - u.length, ?_⟩
    rw [StandsAt, ← List.suffix_iff_eq_drop.mp hSuffix]
    exact hPrefix
  · rintro ⟨p, hStands⟩
    exact ⟨t.drop p, hStands, List.drop_suffix p t⟩

theorem standsAt_drop {n p : Nat} : StandsAt token (t.drop n) p ↔ StandsAt token t (n + p) := by
  rw [StandsAt, StandsAt, List.drop_drop]

/-- A token of two characters stands where one of them follows the other. -/
theorem standsAt_pair {a b : Char} {p : Nat} :
    StandsAt [a, b] t p ↔ t[p]? = some a ∧ t[p + 1]? = some b := by
  have hFirst : t[p]? = (t.drop p)[0]? := by simp
  have hSecond : t[p + 1]? = (t.drop p)[1]? := by simp
  rw [StandsAt, hFirst, hSecond]
  match t.drop p with
  | [] => simp
  | [c] => simp
  | c :: d :: rest => simp [eq_comm]

-- ---------------------------------------------------------------------------
-- The first place
-- ---------------------------------------------------------------------------

theorem breakAt?_eq_none_iff : breakAt? token t = none ↔ ¬ token <:+: t := by
  induction t with
  | nil => cases token <;> simp [breakAt?]
  | cons c rest ih =>
    rw [breakAt?, List.infix_cons_iff, ← List.isPrefixOf_iff_prefix]
    by_cases hLead : token.isPrefixOf (c :: rest) = true
    · simp [hLead]
    · rw [if_neg hLead, Option.map_eq_none_iff, ih]
      simp [hLead]

theorem hasToken_eq_false_iff : hasToken token t = false ↔ ¬ token <:+: t := by
  rw [hasToken, Option.isSome_eq_false_iff, Option.isNone_iff_eq_none, breakAt?_eq_none_iff]

/-- The token is no piece of what comes before its first place, not even together with all but the
last of its own characters. -/
theorem not_infix_of_breakAt? (hToken : token ≠ [])
    (h : breakAt? token t = some (before, after)) : ¬ token <:+: before ++ token.dropLast := by
  induction t generalizing before with
  | nil => simp [breakAt?, hToken] at h
  | cons c rest ih =>
    rw [breakAt?] at h
    split at h
    · -- the token comes first, and it is longer than all but its last character
      rw [Option.some.injEq, Prod.mk.injEq] at h
      rw [← h.1, List.nil_append]
      intro hInfix
      have hLength := hInfix.length_le
      have hPos := List.length_pos_iff.mpr hToken
      rw [List.length_dropLast] at hLength
      omega
    · rename_i hLead
      obtain ⟨⟨front, back⟩, hParts, hEq⟩ := Option.map_eq_some_iff.mp h
      rw [Prod.mk.injEq] at hEq
      obtain ⟨rfl, rfl⟩ := hEq
      rw [List.cons_append, List.infix_cons_iff]
      rintro (hPrefix | hInfix)
      · apply hLead
        rw [List.isPrefixOf_iff_prefix]
        refine hPrefix.trans ?_
        rw [breakAt?_eq_some hParts, List.cons_prefix_cons, List.append_assoc,
          List.prefix_append_right_inj]
        exact ⟨rfl, (List.dropLast_prefix token).trans (List.prefix_append token back)⟩
      · exact ih hParts hInfix

theorem breakAt?_of_not_infix (hToken : token ≠ [])
    (h : ¬ token <:+: before ++ token.dropLast) :
    breakAt? token (before ++ token ++ after) = some (before, after) := by
  induction before with
  | nil =>
    obtain ⟨c, rest, rfl⟩ := List.exists_cons_of_ne_nil hToken
    have hLead : (c :: rest).isPrefixOf (c :: rest ++ after) = true :=
      List.isPrefixOf_iff_prefix.mpr (List.prefix_append ..)
    rw [List.nil_append, List.cons_append, breakAt?, ← List.cons_append, if_pos hLead,
      List.drop_left]
  | cons c rest ih =>
    rw [List.cons_append, List.infix_cons_iff, not_or] at h
    have hLead : ¬ token.isPrefixOf (c :: (rest ++ token ++ after)) = true := by
      rw [List.isPrefixOf_iff_prefix]
      intro hPrefix
      apply h.1
      -- both are prefixes of the whole text, and the token is the shorter one
      refine List.prefix_of_prefix_length_le hPrefix ?_ ?_
      · rw [List.cons_prefix_cons, List.append_assoc, List.prefix_append_right_inj]
        exact ⟨rfl, (List.dropLast_prefix token).trans (List.prefix_append token after)⟩
      · rw [List.length_cons, List.length_append, List.length_dropLast]
        omega
    rw [List.cons_append, List.cons_append, breakAt?, if_neg hLead, ih h.2, Option.map_some]

/-- **The first place of a token.** `breakAt?` cuts a text at a place of the token, and no place
before that begins inside of what it leaves in front. -/
theorem breakAt?_eq_some_iff (hToken : token ≠ []) :
    breakAt? token t = some (before, after) ↔
      t = before ++ token ++ after ∧ ¬ token <:+: before ++ token.dropLast := by
  constructor
  · intro h
    exact ⟨breakAt?_eq_some h, not_infix_of_breakAt? hToken h⟩
  · rintro ⟨rfl, h⟩
    exact breakAt?_of_not_infix hToken h

theorem drop_of_breakAt? (h : breakAt? token t = some (before, after)) :
    t.drop (before.length + token.length) = after := by
  rw [breakAt?_eq_some h, ← List.length_append, List.drop_left]

/-- No place of the token comes before the first one. -/
theorem le_of_standsAt (hToken : token ≠ []) (h : breakAt? token t = some (before, after))
    {p : Nat} (hStands : StandsAt token t p) : before.length ≤ p := by
  refine Nat.le_of_not_lt fun hLt => ?_
  apply not_infix_of_breakAt? hToken h
  rw [infix_iff_standsAt]
  refine ⟨p, ?_⟩
  have hPrefix : (before ++ token.dropLast).drop p <+: t.drop p := by
    obtain ⟨u, hu⟩ := List.dropLast_prefix token
    have hBound : p ≤ (before ++ token.dropLast).length := by
      rw [List.length_append]
      omega
    have hWhole : t = before ++ token.dropLast ++ (u ++ after) := by
      calc t = before ++ token ++ after := breakAt?_eq_some h
        _ = before ++ (token.dropLast ++ u) ++ after := by rw [hu]
        _ = before ++ token.dropLast ++ (u ++ after) := by simp only [List.append_assoc]
    rw [hWhole, List.drop_append_of_le_length hBound]
    exact List.prefix_append ..
  refine List.prefix_of_prefix_length_le hStands hPrefix ?_
  rw [List.length_drop, List.length_append, List.length_dropLast]
  omega

-- ---------------------------------------------------------------------------
-- Seams
-- ---------------------------------------------------------------------------

/-- A character stands twice in a row in one of two texts, or at their seam. -/
theorem pair_infix_append {c : Char} {a b : Text} :
    [c, c] <:+: a ++ b ↔
      [c, c] <:+: a ∨ [c, c] <:+: b ∨ (a.getLast? = some c ∧ b.head? = some c) := by
  rw [List.infix_append_iff_ne_nil]
  refine or_congr_right (or_congr_right ?_)
  constructor
  · rintro ⟨front, back, hFront, hBack, hPair, hSuffix, hPrefix⟩
    match front, back with
    | [x], [y] =>
      simp only [List.cons_append, List.nil_append, List.cons.injEq, and_true] at hPair
      obtain ⟨rfl, rfl⟩ := hPair
      obtain ⟨u, rfl⟩ := hSuffix
      obtain ⟨v, rfl⟩ := hPrefix
      simp
    | x :: y :: z, w :: v => simp at hPair
  · rintro ⟨hLast, hHead⟩
    obtain ⟨u, rfl⟩ := List.getLast?_eq_some_iff.mp hLast
    obtain ⟨v, rfl⟩ := List.head?_eq_some_iff.mp hHead
    exact ⟨[c], [c], by simp, by simp, rfl, ⟨u, rfl⟩, ⟨v, rfl⟩⟩

/-- A pair does not reach into a text without its character, so it stands on one side of it. -/
theorem pair_infix_around {c : Char} {a mid b : Text} (hc : c ∉ mid) (hMid : mid ≠ []) :
    [c, c] <:+: a ++ mid ++ b ↔ [c, c] <:+: a ∨ [c, c] <:+: b := by
  have hOwn : ¬ [c, c] <:+: mid := fun h => hc (h.subset (List.mem_cons_self ..))
  have hHead : mid.head? ≠ some c := fun h => hc (List.mem_of_head? h)
  have hLast : (a ++ mid).getLast? ≠ some c := by
    rw [List.getLast?_append, List.getLast?_eq_some_getLast hMid, Option.some_or]
    intro h
    exact hc (Option.some.inj h ▸ List.getLast_mem hMid)
  rw [pair_infix_append, pair_infix_append]
  simp only [hOwn, hHead, hLast, and_false, false_and, or_false]

/-- One more character makes a pair if the text has one or ends with the character. -/
theorem pair_infix_concat {c : Char} {a : Text} :
    [c, c] <:+: a ++ [c] ↔ [c, c] <:+: a ∨ a.getLast? = some c := by
  rw [pair_infix_append]
  have hShort : ¬ [c, c] <:+: [c] := fun h => absurd h.length_le (by simp)
  simp [hShort]

/-- `breakAt?` finds a token of one character twice behind a text that neither holds the token nor
ends with the character. -/
theorem breakAt?_pair_eq_some_iff {c : Char} :
    breakAt? [c, c] t = some (before, after) ↔
      t = before ++ [c, c] ++ after ∧ ¬ [c, c] <:+: before ∧ before.getLast? ≠ some c := by
  rw [breakAt?_eq_some_iff (by simp), show [c, c].dropLast = [c] from rfl, pair_infix_concat,
    not_or]

/-- A token whose first character is not in a text does not begin in it. -/
theorem infix_of_infix_append_left {c : Char} {u a b : Text} (hc : c ∉ a)
    (h : c :: u <:+: a ++ b) : c :: u <:+: b := by
  induction a with
  | nil => exact h
  | cons d rest ih =>
    rw [List.mem_cons, not_or] at hc
    rw [List.cons_append, List.infix_cons_iff, List.cons_prefix_cons] at h
    rcases h with hHere | hLater
    · exact absurd hHere.1 hc.1
    · exact ih hc.2 hLater

/-- A token whose last character is not in a text does not end in it. -/
theorem infix_of_infix_append_right {c : Char} {u a b : Text} (hc : c ∉ b)
    (h : u ++ [c] <:+: a ++ b) : u ++ [c] <:+: a := by
  rw [← List.reverse_infix, List.reverse_append] at h ⊢
  rw [List.reverse_append] at h
  exact infix_of_infix_append_left (by simpa using hc) h

/-- No end of the token is also its beginning, the whole token apart. -/
def Unbordered (token : Text) : Prop :=
  ∀ front back, token = front ++ back → front ≠ [] → back ≠ [] → ¬ back <+: token

theorem unbordered_of_head_not_mem {c : Char} {u : Text} (h : c ∉ u) : Unbordered (c :: u) := by
  intro front back hEq hFront hBack hPrefix
  obtain ⟨d, front, rfl⟩ := List.exists_cons_of_ne_nil hFront
  obtain ⟨e, back, rfl⟩ := List.exists_cons_of_ne_nil hBack
  rw [List.cons_append, List.cons.injEq] at hEq
  rw [List.cons_prefix_cons] at hPrefix
  apply h
  rw [hEq.2, ← hPrefix.1]
  exact List.mem_append_right _ (List.mem_cons_self ..)

theorem unbordered_of_last_not_mem {c : Char} {u : Text} (h : c ∉ u) : Unbordered (u ++ [c]) := by
  intro front back hEq hFront hBack hPrefix
  have hLast : c ∈ back := by
    have hEnd := congrArg List.getLast? hEq
    rw [List.getLast?_concat, List.getLast?_append, List.getLast?_eq_some_getLast hBack,
      Option.some_or, Option.some.injEq] at hEnd
    rw [hEnd]
    exact List.getLast_mem hBack
  have hShort : back.length ≤ u.length := by
    have hLength := congrArg List.length hEq
    have hPos := List.length_pos_iff.mpr hFront
    rw [List.length_append, List.length_append, List.length_singleton] at hLength
    omega
  exact h ((List.prefix_of_prefix_length_le hPrefix (List.prefix_append u [c]) hShort).subset hLast)

/-- A token without borders is a piece of a text that its own beginning follows only if it is a
piece of the text alone. -/
theorem infix_of_infix_append_dropLast (hBorder : Unbordered token) (hToken : token ≠ [])
    (h : token <:+: before ++ token.dropLast) : token <:+: before := by
  rw [List.infix_append_iff_ne_nil] at h
  rcases h with hBefore | hOwn | ⟨front, back, hFront, hBack, hEq, -, hPrefix⟩
  · exact hBefore
  · have hLength := hOwn.length_le
    have hPos := List.length_pos_iff.mpr hToken
    rw [List.length_dropLast] at hLength
    omega
  · exact absurd (hPrefix.trans (List.dropLast_prefix token)) (hBorder front back hEq hFront hBack)

-- ---------------------------------------------------------------------------
-- Replacing
-- ---------------------------------------------------------------------------

variable {old new : Text}

theorem replaceFrom_eq_drop (n : Nat) (t : Text) :
    replaceFrom old new n t = replaceFrom old new 0 (t.drop n) := by
  induction n generalizing t with
  | zero => rw [List.drop_zero]
  | succ n ih =>
    cases t with
    | nil => rw [List.drop_nil, replaceFrom, replaceFrom]
    | cons c rest => rw [replaceFrom, ih, List.drop_succ_cons]

theorem replaceAll_of_breakAt? (hOld : old ≠ []) (h : breakAt? old t = some (before, after)) :
    replaceAll old new t = before ++ new ++ replaceAll old new after := by
  induction t generalizing before with
  | nil => simp [breakAt?, hOld] at h
  | cons c rest ih =>
    rw [breakAt?] at h
    rw [replaceAll, replaceFrom]
    split at h
    · rename_i hLead
      rw [Option.some.injEq, Prod.mk.injEq] at h
      have hDrop : (c :: rest).drop old.length = rest.drop (old.length - 1) := by
        obtain ⟨d, u, rfl⟩ := List.exists_cons_of_ne_nil hOld
        simp
      rw [if_pos hLead, replaceFrom_eq_drop, ← hDrop, h.2, ← h.1, List.nil_append, replaceAll]
    · rename_i hLead
      obtain ⟨⟨front, back⟩, hParts, hEq⟩ := Option.map_eq_some_iff.mp h
      rw [Prod.mk.injEq] at hEq
      obtain ⟨rfl, rfl⟩ := hEq
      have hRest := ih hParts
      rw [replaceAll] at hRest
      rw [if_neg hLead, hRest]
      rfl

theorem replaceAll_of_not_infix (h : ¬ old <:+: t) : replaceAll old new t = t := by
  induction t with
  | nil => rw [replaceAll, replaceFrom]
  | cons c rest ih =>
    rw [List.infix_cons_iff, not_or, ← List.isPrefixOf_iff_prefix] at h
    have hRest := ih h.2
    rw [replaceAll] at hRest
    rw [replaceAll, replaceFrom, if_neg h.1, hRest]

/-- **Replacing step by step.** The first place of a token without borders is replaced, and the
replacing goes on behind it. -/
theorem replaceAll_append_token (hBorder : Unbordered old) (hOld : old ≠ [])
    (h : ¬ old <:+: before) :
    replaceAll old new (before ++ old ++ after) = before ++ new ++ replaceAll old new after := by
  apply replaceAll_of_breakAt? hOld
  apply breakAt?_of_not_infix hOld
  intro hInfix
  exact h (infix_of_infix_append_dropLast hBorder hOld hInfix)

/-- A token without a certain character is no beginning of more than what stands before that
character. -/
theorem prefix_of_prefix_append_cons {c : Char} {a b : Text} (hc : c ∉ token)
    (h : token <+: a ++ c :: b) : token <+: a := by
  rcases Nat.le_total token.length a.length with hLe | hGe
  · exact List.prefix_of_prefix_length_le h (List.prefix_append ..) hLe
  · have hFront : a <+: token :=
      List.prefix_of_prefix_length_le (List.prefix_append ..) h hGe
    obtain ⟨rest, rfl⟩ := hFront
    cases rest with
    | nil => simp
    | cons d rest =>
      rw [List.prefix_append_right_inj, List.cons_prefix_cons] at h
      rw [← h.1] at hc
      simp at hc

theorem replaceFrom_append_cons {c : Char} {a b : Text} (hc : c ∉ old) (hOld : old ≠ []) {n : Nat}
    (hn : n ≤ a.length) :
    replaceFrom old new n (a ++ c :: b) = replaceFrom old new n a ++ c :: replaceAll old new b := by
  induction a generalizing n with
  | nil =>
    have hLead : ¬ old.isPrefixOf (c :: b) = true := by
      rw [List.isPrefixOf_iff_prefix]
      intro hPrefix
      exact hOld (List.prefix_nil.mp (prefix_of_prefix_append_cons (a := []) hc hPrefix))
    obtain rfl : n = 0 := by simpa using hn
    rw [List.nil_append, replaceFrom, List.nil_append, replaceFrom, if_neg hLead, replaceAll]
  | cons d rest ih =>
    rw [List.length_cons] at hn
    cases n with
    | succ n =>
      rw [List.cons_append, replaceFrom, replaceFrom]
      exact ih (by omega)
    | zero =>
      rw [List.cons_append, replaceFrom, replaceFrom]
      by_cases hLead : old <+: d :: rest
      · have hWhole : old <+: d :: (rest ++ c :: b) := hLead.trans (List.prefix_append ..)
        have hLength := hLead.length_le
        rw [List.length_cons] at hLength
        rw [if_pos (List.isPrefixOf_iff_prefix.mpr hLead),
          if_pos (List.isPrefixOf_iff_prefix.mpr hWhole), ih (by omega), List.append_assoc]
      · have hWhole : ¬ old <+: d :: (rest ++ c :: b) := fun h =>
          hLead (prefix_of_prefix_append_cons (a := d :: rest) hc h)
        rw [← List.isPrefixOf_iff_prefix] at hLead hWhole
        rw [if_neg hLead, if_neg hWhole, ih (Nat.zero_le _), List.cons_append]

/-- **A character that is not in the token** divides the replacing: what is before it and what is
behind it are replaced by themselves. -/
theorem replaceAll_append_of_not_mem {c : Char} {a b : Text} (hc : c ∉ old) (hOld : old ≠ []) :
    replaceAll old new (a ++ c :: b) = replaceAll old new a ++ c :: replaceAll old new b :=
  replaceFrom_append_cons hc hOld (Nat.zero_le _)

-- ---------------------------------------------------------------------------
-- What replacing keeps
-- ---------------------------------------------------------------------------

/-- The second text comes of the first by replacing the places of `old`, from the left. -/
inductive Replaced (old new : Text) : Text → Text → Prop where
  | done {t : Text} (hNone : ¬ old <:+: t) : Replaced old new t t
  | step {before after out : Text} (hRest : Replaced old new after out) :
      Replaced old new (before ++ old ++ after) (before ++ new ++ out)

theorem replaced_replaceAll (hOld : old ≠ []) (t : Text) :
    Replaced old new t (replaceAll old new t) := by
  induction hLength : t.length using Nat.strongRecOn generalizing t with
  | ind n ih =>
    cases hBreak : breakAt? old t with
    | none =>
      have hNone := breakAt?_eq_none_iff.mp hBreak
      have hSame : replaceAll old new t = t := replaceAll_of_not_infix hNone
      rw [hSame]
      exact .done hNone
    | some parts =>
      obtain ⟨before, after⟩ := parts
      have hShorter := length_of_breakAt? hOld hBreak
      rw [replaceAll_of_breakAt? hOld hBreak]
      conv => arg 3; rw [breakAt?_eq_some hBreak]
      exact .step (ih after.length (hLength ▸ hShorter) after rfl)

namespace Replaced

variable {out : Text}

/-- A character that stands as often in the new text as in the old one keeps its count. -/
theorem count_eq {c : Char} (h : Replaced old new t out) (hCount : new.count c = old.count c) :
    out.count c = t.count c := by
  induction h with
  | done => rfl
  | step _ ih => simp only [List.count_append, ih, hCount]

/-- The last character stays if both texts have the same. -/
theorem getLast?_eq (h : Replaced old new t out) (hLast : new.getLast? = old.getLast?) :
    out.getLast? = t.getLast? := by
  induction h with
  | done => rfl
  | step _ ih => simp only [List.getLast?_append, ih, hLast]

/-- No pair comes about of a character that is not put in. -/
theorem pair_was_there {c : Char} (h : Replaced old new t out) (hNew : c ∉ new ∧ new ≠ [])
    (hPair : [c, c] <:+: out) : [c, c] <:+: t := by
  induction h with
  | done => exact hPair
  | @step before after out _ ih =>
    rcases (pair_infix_around hNew.1 hNew.2).mp hPair with hBefore | hAfter
    · rw [List.append_assoc]
      exact hBefore.trans (List.prefix_append ..).isInfix
    · exact (ih hAfter).trans (List.suffix_append ..).isInfix

/-- A text that holds what is put in still holds it. -/
theorem new_stays (h : Replaced old new t out) (hInfix : new <:+: t) : new <:+: out := by
  cases h with
  | done => exact hInfix
  | step => exact List.infix_append ..

end Replaced

end EventLoom.Text
