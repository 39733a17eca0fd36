/-!
# Texts

A text is the list of its code points, so every index and every length in this library counts
code points. This module holds what is asked of a text everywhere: the first place of a token,
replacement of a token, cutting at a separator, and joining.

## Results

* `breakAt?_eq_some` — what `breakAt?` returns, put together again, is the text.
* `length_of_breakAt?` — the part after a token is shorter than the text.
* `join_cut` — joining what `cut` returns gives the text back.
-/

namespace EventLoom

/-- A text is the list of its code points. -/
abbrev Text := List Char

namespace Text

-- ---------------------------------------------------------------------------
-- Classes of characters
-- ---------------------------------------------------------------------------

/-- Whether the code point of a character lies in one of some closed intervals. -/
def liesIn (ranges : List (Nat × Nat)) (c : Char) : Bool :=
  ranges.any fun range => range.1 ≤ c.toNat && c.toNat ≤ range.2

-- ---------------------------------------------------------------------------
-- Tokens
-- ---------------------------------------------------------------------------

/-- The parts before and after the first place where `token` stands. -/
def breakAt? (token : Text) : Text → Option (Text × Text)
  | [] => if token.isEmpty then some ([], []) else none
  | c :: rest =>
    if token.isPrefixOf (c :: rest) then some ([], (c :: rest).drop token.length)
    else (breakAt? token rest).map fun parts => (c :: parts.1, parts.2)

/-- Whether `token` stands anywhere in the text. -/
def hasToken (token t : Text) : Bool := (breakAt? token t).isSome

theorem breakAt?_eq_some {token t before after : Text}
    (h : breakAt? token t = some (before, after)) : t = before ++ token ++ after := by
  induction t generalizing before with
  | nil =>
    simp only [breakAt?] at h
    split at h
    · rename_i hToken
      simp_all
    · simp at h
  | cons c rest ih =>
    simp only [breakAt?] at h
    split at h
    · rename_i hLead
      obtain ⟨tail, hTail⟩ := List.isPrefixOf_iff_prefix.1 hLead
      simp only [Option.some.injEq, Prod.mk.injEq] at h
      obtain ⟨rfl, rfl⟩ := h
      rw [← hTail]
      simp
    · obtain ⟨⟨b, a⟩, hParts, hEq⟩ := Option.map_eq_some_iff.1 h
      simp only [Prod.mk.injEq] at hEq
      obtain ⟨rfl, rfl⟩ := hEq
      have := ih hParts
      simp_all

/-- Breaking at a token that is not empty leaves less text behind the token. -/
theorem length_of_breakAt? {token t before after : Text} (hToken : token ≠ [])
    (h : breakAt? token t = some (before, after)) : after.length < t.length := by
  have hParts := congrArg List.length (breakAt?_eq_some h)
  have hPos : 0 < token.length := List.length_pos_iff.2 hToken
  simp only [List.length_append] at hParts
  omega

/-- Replace `old` by `new`, reading from the left; the first `skip` characters are dropped. -/
def replaceFrom (old new : Text) : Nat → Text → Text
  | _, [] => []
  | skip + 1, _ :: rest => replaceFrom old new skip rest
  | 0, c :: rest =>
    if old.isPrefixOf (c :: rest) then new ++ replaceFrom old new (old.length - 1) rest
    else c :: replaceFrom old new 0 rest

/-- Replace every place of `old` by `new`. The places are found from the left and do not
overlap, and the text put in is not searched again. `old` is not to be empty. -/
def replaceAll (old new t : Text) : Text := replaceFrom old new 0 t

-- ---------------------------------------------------------------------------
-- Cutting and joining
-- ---------------------------------------------------------------------------

/-- The parts between the separators; a text without any is its only part. -/
def cut (separator : Char) : Text → List Text
  | [] => [[]]
  | c :: rest =>
    if c = separator then [] :: cut separator rest
    else
      match cut separator rest with
      | [] => [[c]]
      | part :: parts => (c :: part) :: parts

/-- The parts one after the other, with `separator` between any two. -/
def join (separator : Text) : List Text → Text
  | [] => []
  | [part] => part
  | part :: parts => part ++ separator ++ join separator parts

theorem cut_ne_nil (separator : Char) (t : Text) : cut separator t ≠ [] := by
  cases t with
  | nil => simp [cut]
  | cons c rest =>
    simp only [cut]
    split
    · simp
    · split <;> simp

theorem join_cons_of_ne_nil {separator part : Text} {parts : List Text} (h : parts ≠ []) :
    join separator (part :: parts) = part ++ separator ++ join separator parts := by
  cases parts with
  | nil => exact absurd rfl h
  | cons _ _ => rfl

theorem join_cut (separator : Char) (t : Text) : join [separator] (cut separator t) = t := by
  induction t with
  | nil => rfl
  | cons c rest ih =>
    simp only [cut]
    split
    · rename_i hc
      rw [join_cons_of_ne_nil (cut_ne_nil separator rest), ih, hc]
      rfl
    · rcases hParts : cut separator rest with _ | ⟨part, parts⟩
      · exact absurd hParts (cut_ne_nil separator rest)
      · rw [hParts] at ih
        cases parts with
        | nil => simp_all [join]
        | cons _ _ => simp_all [join]

theorem prefix_join_cons (separator part : Text) (parts : List Text) :
    part <+: join separator (part :: parts) := by
  cases parts with
  | nil => exact List.prefix_refl part
  | cons _ _ => exact ⟨_, (List.append_assoc ..).symm⟩

theorem subset_join {separator part : Text} {parts : List Text} (h : part ∈ parts) :
    part ⊆ join separator parts := by
  induction parts with
  | nil => cases h
  | cons first rest ih =>
    by_cases hRest : rest = []
    · rw [hRest, List.mem_singleton] at h
      rw [hRest, h]
      exact List.Subset.refl first
    · rw [join_cons_of_ne_nil hRest]
      rcases List.mem_cons.mp h with rfl | hMem
      · exact fun c hc => List.mem_append_left _ (List.mem_append_left _ hc)
      · exact fun c hc => List.mem_append_right _ (ih hMem hc)

theorem mem_join {separator : Text} {parts : List Text} {c : Char}
    (h : c ∈ join separator parts) : c ∈ separator ∨ ∃ part ∈ parts, c ∈ part := by
  induction parts with
  | nil => cases h
  | cons first rest ih =>
    by_cases hRest : rest = []
    · rw [hRest] at h ⊢
      exact .inr ⟨first, List.mem_cons_self .., h⟩
    · rw [join_cons_of_ne_nil hRest, List.mem_append, List.mem_append] at h
      rcases h with (hFirst | hSeparator) | hOthers
      · exact .inr ⟨first, List.mem_cons_self .., hFirst⟩
      · exact .inl hSeparator
      · rcases ih hOthers with hSeparator | ⟨part, hPart, hc⟩
        · exact .inl hSeparator
        · exact .inr ⟨part, List.mem_cons_of_mem first hPart, hc⟩

theorem length_le_length_join (separator : Text) {part : Text} {parts : List Text}
    (h : part ∈ parts) : part.length ≤ (join separator parts).length := by
  induction parts with
  | nil => cases h
  | cons first rest ih =>
    by_cases hRest : rest = []
    · rw [hRest, List.mem_singleton] at h
      have hOnly : join separator [first] = first := rfl
      exact Nat.le_of_eq (by rw [hRest, h, hOnly])
    · rw [join_cons_of_ne_nil hRest]
      simp only [List.length_append]
      rcases List.mem_cons.mp h with rfl | hMem
      · omega
      · have := ih hMem
        omega

/-- Parts that are not empty are no more than the characters of what they are joined to. -/
theorem length_parts_le_length_join (separator : Text) {parts : List Text}
    (h : ∀ part ∈ parts, part ≠ []) : parts.length ≤ (join separator parts).length := by
  induction parts with
  | nil => exact Nat.zero_le _
  | cons first rest ih =>
    have hFirst : 0 < first.length := List.length_pos_iff.mpr (h first (List.mem_cons_self ..))
    by_cases hRest : rest = []
    · rw [hRest, join]
      exact hFirst
    · have hOthers := ih fun part hPart => h part (List.mem_cons_of_mem first hPart)
      rw [join_cons_of_ne_nil hRest]
      simp only [List.length_append, List.length_cons]
      omega

end Text

end EventLoom
