import EventLoom.Template.Basic

/-!
# Lists of segments that make up a template

A template is put together from a list of segments, and nothing looks at the kinds of its segments
after that: the literals are every other segment, beginning with the first, and the keys are the
others. This is right because only such lists are taken in which literals and keys take turns
(`alternate`). Whether they do is found by two checks, of the number of segments and of the kind of
each of them at its place, and of the ways to fail the first one that applies is reported: an even
number, or the first segment whose kind is not the one whose turn it is (`FirstOutOfTurn`).

The two checks say together what putting the segments together says at once. A list that passes them
falls into a literal and pairs of a key and a literal behind it.

## Results

* `alternate_literals_keys`, `everyOther_segments` — the segments of a template, written by turns
  and taken apart again.
* `misplaced?_eq_some_iff` — what the check of the kinds finds.
* `ofSegments_eq_ok_iff`, `ofSegments_eq_error_iff` — which lists make up a template, and what the
  others are turned down for.
* `ofSegments_alternating` — both in terms of literals and keys.
-/

namespace EventLoom

open Text Number
open Problem (ofMessage)

variable {α : Type}

-- ---------------------------------------------------------------------------
-- Turns
-- ---------------------------------------------------------------------------

/-- Literals and keys as segments by turns, the first literal first. -/
def alternate : List α → List α → List (Segment α)
  | [], _ => []
  | literal :: _, [] => [.literal literal]
  | literal :: literals, key :: keys =>
    .literal literal :: .placeholder key :: alternate literals keys

/-- Every other item, beginning with the first. -/
def everyOther : List α → List α
  | [] => []
  | [item] => [item]
  | item :: _ :: rest => item :: everyOther rest

theorem everyOther_cons (item : α) (rest : List α) :
    everyOther (item :: rest) = item :: everyOther (rest.drop 1) := by
  cases rest <;> rfl

/-- The segment is of the kind whose turn it is at a place. -/
def Segment.IsInTurn (s : Segment α) (place : Nat) : Prop := s.isLiteral = true ↔ place % 2 = 0

theorem Segment.IsInTurn.exists_literal {s : Segment α} {place : Nat} (h : s.IsInTurn place)
    (hPlace : place % 2 = 0) : ∃ t, s = .literal t := by
  cases s with
  | literal t => exact ⟨t, rfl⟩
  | placeholder key => exact nomatch h.mpr hPlace

theorem Segment.IsInTurn.exists_placeholder {s : Segment α} {place : Nat} (h : s.IsInTurn place)
    (hPlace : place % 2 = 1) : ∃ key, s = .placeholder key := by
  cases s with
  | literal t =>
    have hEven := h.mp rfl
    omega
  | placeholder key => exact ⟨key, rfl⟩

/-- All segments are, when the first one stands at a place. -/
def AllInTurn : Nat → List (Segment α) → Prop
  | _, [] => True
  | place, s :: rest => s.IsInTurn place ∧ AllInTurn (place + 1) rest

/-- At the place stands the first segment whose turn it is not. -/
def FirstOutOfTurn (list : List (Segment α)) (place : Nat) : Prop :=
  ∃ before s after, list = before ++ s :: after ∧ place = before.length ∧ AllInTurn 0 before
    ∧ ¬ s.IsInTurn place

namespace TemplateOf

variable {list : List (Segment α)} {t : TemplateOf α}

theorem segments_prepend (lead key tail : α) (holes : List (HoleOf α)) :
    segments ⟨lead, ⟨key, tail⟩ :: holes⟩
      = .literal lead :: .placeholder key :: segments ⟨tail, holes⟩ := rfl

theorem alternate_literals_keys (t : TemplateOf α) : alternate t.literals t.keys = t.segments := by
  obtain ⟨lead, holes⟩ := t
  induction holes generalizing lead with
  | nil => rfl
  | cons hole rest ih =>
    rw [segments_prepend, ← ih]
    rfl

/-- A template is told by its segments. -/
theorem segments_injective {t u : TemplateOf α} (h : t.segments = u.segments) : t = u := by
  have hAgain := assemble?_segments t
  rw [h, assemble?_segments] at hAgain
  exact (Option.some.inj hAgain).symm

/-- One literal more than keys is what a template has. -/
theorem exists_of_lengths {literals keys : List α} (h : literals.length = keys.length + 1) :
    ∃ t : TemplateOf α, t.literals = literals ∧ t.keys = keys := by
  induction keys generalizing literals with
  | nil =>
    obtain ⟨literal, rfl⟩ := List.length_eq_one_iff.mp h
    exact ⟨⟨literal, []⟩, rfl, rfl⟩
  | cons key keys ih =>
    obtain ⟨literal, literals, rfl⟩ := List.exists_cons_of_length_eq_add_one h
    obtain ⟨⟨tail, holes⟩, hLiterals, hKeys⟩ := ih (Nat.succ.inj h)
    refine ⟨⟨literal, ⟨key, tail⟩ :: holes⟩, ?_, ?_⟩
    · rw [← hLiterals]
      rfl
    · rw [← hKeys]
      rfl

/-- Every other segment is a literal, and the others are the keys. -/
theorem everyOther_segments (t : TemplateOf α) :
    everyOther t.segments = t.literals.map .literal
      ∧ everyOther (t.segments.drop 1) = t.keys.map .placeholder := by
  obtain ⟨lead, holes⟩ := t
  induction holes generalizing lead with
  | nil => exact ⟨rfl, rfl⟩
  | cons hole rest ih =>
    obtain ⟨hLiterals, hKeys⟩ := ih hole.tail
    rw [segments_prepend, List.drop_one, List.tail_cons, everyOther_cons, everyOther_cons, hKeys,
      List.drop_one, List.tail_cons, hLiterals]
    exact ⟨rfl, rfl⟩

-- ---------------------------------------------------------------------------
-- The check of the kinds
-- ---------------------------------------------------------------------------

theorem isLiteral_eq_iff {s : Segment α} {place : Nat} :
    s.isLiteral = decide (place % 2 = 0) ↔ s.IsInTurn place := by
  rw [Bool.eq_iff_iff, decide_eq_true_iff, Segment.IsInTurn]

/-- Whose turn it is can be told from the place. -/
theorem misplaced?_cons (s : Segment α) (rest : List (Segment α)) (place : Nat) :
    misplaced? (decide (place % 2 = 0)) place (s :: rest) =
      if s.isLiteral = decide (place % 2 = 0) then
        misplaced? (decide ((place + 1) % 2 = 0)) (place + 1) rest
      else some place := by
  have hNext : (!decide (place % 2 = 0)) = decide ((place + 1) % 2 = 0) := by
    rw [← decide_not, decide_eq_decide]
    omega
  rw [misplaced?, hNext]

theorem misplaced?_cons_of_inTurn {s : Segment α} {place : Nat} (h : s.IsInTurn place)
    (rest : List (Segment α)) :
    misplaced? (decide (place % 2 = 0)) place (s :: rest)
      = misplaced? (decide ((place + 1) % 2 = 0)) (place + 1) rest := by
  rw [misplaced?_cons, if_pos (isLiteral_eq_iff.mpr h)]

theorem misplaced?_cons_of_not_inTurn {s : Segment α} {place : Nat} (h : ¬ s.IsInTurn place)
    (rest : List (Segment α)) :
    misplaced? (decide (place % 2 = 0)) place (s :: rest) = some place := by
  rw [misplaced?_cons, if_neg (mt isLiteral_eq_iff.mp h)]

/-- The check goes over segments in turn without finding anything. -/
theorem misplaced?_append {before : List (Segment α)} {place : Nat} (h : AllInTurn place before)
    (after : List (Segment α)) :
    misplaced? (decide (place % 2 = 0)) place (before ++ after)
      = misplaced? (decide ((place + before.length) % 2 = 0)) (place + before.length) after := by
  induction before generalizing place with
  | nil => rfl
  | cons s rest ih =>
    rw [List.cons_append, misplaced?_cons_of_inTurn h.1, ih h.2, List.length_cons,
      Nat.add_assoc place, Nat.add_comm 1]

/-- The segments are all in turn, or there is a first one that is not. -/
theorem allInTurn_or (place : Nat) (list : List (Segment α)) :
    AllInTurn place list ∨ ∃ before s after, list = before ++ s :: after ∧ AllInTurn place before
      ∧ ¬ s.IsInTurn (place + before.length) := by
  induction list generalizing place with
  | nil => exact .inl trivial
  | cons first rest ih =>
    by_cases hFirst : first.IsInTurn place
    · rcases ih (place + 1) with hRest | ⟨before, s, after, rfl, hBefore, hs⟩
      · exact .inl ⟨hFirst, hRest⟩
      · refine .inr ⟨first :: before, s, after, rfl, ⟨hFirst, hBefore⟩, ?_⟩
        rw [List.length_cons, Nat.add_comm before.length, ← Nat.add_assoc]
        exact hs
    · exact .inr ⟨[], first, rest, rfl, trivial, hFirst⟩

theorem misplaced?_of_allInTurn (h : AllInTurn 0 list) : misplaced? true 0 list = none := by
  have hWhole := misplaced?_append h []
  rw [List.append_nil] at hWhole
  exact hWhole

/-- **What the check of the kinds finds** is the first segment whose turn it is not. -/
theorem misplaced?_eq_some_iff {place : Nat} :
    misplaced? true 0 list = some place ↔ FirstOutOfTurn list place := by
  have hFound : ∀ {before s after}, AllInTurn 0 before → ¬ Segment.IsInTurn s before.length →
      misplaced? (α := α) true 0 (before ++ s :: after) = some before.length := by
    intro before s after hBefore hs
    have hSkip := misplaced?_append hBefore (s :: after)
    rw [Nat.zero_add, misplaced?_cons_of_not_inTurn hs] at hSkip
    exact hSkip
  constructor
  · intro h
    rcases allInTurn_or 0 list with hAll | ⟨before, s, after, rfl, hBefore, hs⟩
    · rw [misplaced?_of_allInTurn hAll] at h
      cases h
    · rw [Nat.zero_add] at hs
      rw [hFound hBefore hs] at h
      cases h
      exact ⟨before, s, after, rfl, rfl, hBefore, hs⟩
  · rintro ⟨before, s, after, rfl, rfl, hBefore, hs⟩
    exact hFound hBefore hs

-- ---------------------------------------------------------------------------
-- Putting together
-- ---------------------------------------------------------------------------

/-- Keys and literals in turn are taken two by two. -/
theorem exists_assembleHoles? {place : Nat} (hPlace : place % 2 = 1) (hTurns : AllInTurn place list)
    (hEven : list.length % 2 = 0) : ∃ holes, assembleHoles? list = some holes := by
  fun_induction assembleHoles? list generalizing place with
  | case1 => exact ⟨[], rfl⟩
  | case2 key tail rest ih =>
    simp only [List.length_cons] at hEven
    obtain ⟨holes, hHoles⟩ := ih (by omega) hTurns.2.2 (by omega)
    refine ⟨⟨key, tail⟩ :: holes, ?_⟩
    rw [hHoles, Option.map_some]
  | case3 list hSome hPair =>
    -- what is no pair of a key and a literal has one segment only, or one that is not in turn
    rcases list with _ | ⟨first, _ | ⟨second, rest⟩⟩
    · exact absurd rfl hSome
    · cases hEven
    · obtain ⟨hFirst, hSecond, -⟩ := hTurns
      obtain ⟨key, rfl⟩ := hFirst.exists_placeholder hPlace
      obtain ⟨tail, rfl⟩ := hSecond.exists_literal (by omega)
      exact absurd rfl (hPair key tail rest)

/-- An odd number of segments in turn makes up a template. -/
theorem exists_segments_eq (hTurns : AllInTurn 0 list) (hOdd : list.length % 2 = 1) :
    ∃ t : TemplateOf α, t.segments = list := by
  cases list with
  | nil => cases hOdd
  | cons first rest =>
    obtain ⟨lead, rfl⟩ := hTurns.1.exists_literal rfl
    rw [List.length_cons] at hOdd
    obtain ⟨holes, hHoles⟩ := exists_assembleHoles? rfl hTurns.2 (by omega)
    refine ⟨⟨lead, holes⟩, ?_⟩
    rw [segments, ← flatMap_of_assembleHoles? hHoles]

theorem allInTurn_holes (holes : List (HoleOf α)) {place : Nat} (hPlace : place % 2 = 1) :
    AllInTurn place
      (holes.flatMap fun hole => [.placeholder hole.key, .literal hole.tail]) := by
  induction holes generalizing place with
  | nil => trivial
  | cons hole rest ih =>
    have hKey : (Segment.placeholder hole.key).IsInTurn place := iff_of_false nofun (by omega)
    have hTail : (Segment.literal hole.tail).IsInTurn (place + 1) := iff_of_true rfl (by omega)
    exact ⟨hKey, hTail, ih (by omega)⟩

theorem allInTurn_segments (t : TemplateOf α) : AllInTurn 0 t.segments :=
  ⟨iff_of_true rfl rfl, allInTurn_holes t.holes rfl⟩

theorem ofSegments_eq_ok_iff : ofSegments list = .ok t ↔ t.segments = list := by
  constructor
  · intro h
    rw [ofSegments] at h
    split at h
    · rename_i hWhole
      cases h
      exact (segments_of_assemble? hWhole).symm
    · cases h
  · rintro rfl
    exact ofSegments_segments t

theorem assemble?_eq_none_iff : assemble? list = none ↔ ∀ t : TemplateOf α, t.segments ≠ list := by
  constructor
  · rintro h t rfl
    rw [assemble?_segments] at h
    cases h
  · intro h
    cases hWhole : assemble? list with
    | none => rfl
    | some t => exact absurd (segments_of_assemble? hWhole).symm (h t)

theorem ofSegments_of_assemble?_eq_none (h : assemble? list = none) :
    ofSegments list = .error (if list.length % 2 = 0 then .evenSegmentCount list.length
      else .misplacedSegment ((misplaced? true 0 list).getD 0)) := by
  rw [ofSegments, h]

/-- Why segments make up no template: there is an even number of them, whatever they are, or else a
first one whose turn it is not. -/
inductive Refused (list : List (Segment α)) : Fault → Prop where
  | evenCount (hEven : list.length % 2 = 0) : Refused list (.evenSegmentCount list.length)
  | outOfTurn {place : Nat} (hOdd : list.length % 2 = 1) (hFirst : FirstOutOfTurn list place) :
    Refused list (.misplacedSegment place)

theorem Refused.segments_ne {fault : Fault} (h : Refused list fault) (t : TemplateOf α) :
    t.segments ≠ list := by
  rintro rfl
  cases h with
  | evenCount hEven =>
    rw [length_segments] at hEven
    omega
  | outOfTurn _ hFirst =>
    rw [← misplaced?_eq_some_iff, misplaced?_of_allInTurn (allInTurn_segments t)] at hFirst
    cases hFirst

/-- **What is turned down, and for what.** -/
theorem ofSegments_eq_error_iff {fault : Fault} :
    ofSegments list = .error fault ↔ Refused list fault := by
  constructor
  · intro h
    have hNone : assemble? list = none := by
      rw [assemble?_eq_none_iff]
      rintro t rfl
      rw [ofSegments_segments] at h
      cases h
    rw [ofSegments_of_assemble?_eq_none hNone] at h
    cases h
    split
    · rename_i hEven
      exact .evenCount hEven
    · rename_i hNotEven
      have hOdd : list.length % 2 = 1 := Nat.mod_two_ne_zero.mp hNotEven
      -- segments in turn would have made up a template
      have hTurns : ¬ AllInTurn 0 list := fun hAll =>
        have ⟨t, ht⟩ := exists_segments_eq hAll hOdd
        assemble?_eq_none_iff.mp hNone t ht
      obtain hAll | ⟨before, s, after, hList, hBefore, hs⟩ := allInTurn_or 0 list
      · exact absurd hAll hTurns
      · rw [Nat.zero_add] at hs
        have hFirst : FirstOutOfTurn list before.length :=
          ⟨before, s, after, hList, rfl, hBefore, hs⟩
        rw [misplaced?_eq_some_iff.mpr hFirst]
        exact .outOfTurn hOdd hFirst
  · intro h
    rw [ofSegments_of_assemble?_eq_none (assemble?_eq_none_iff.mpr h.segments_ne)]
    cases h with
    | evenCount hEven => rw [if_pos hEven]
    | outOfTurn hOdd hFirst =>
      rw [if_neg (by omega), misplaced?_eq_some_iff.mpr hFirst, Option.getD_some]

-- ---------------------------------------------------------------------------
-- Literals and keys
-- ---------------------------------------------------------------------------

/-- The segments are the literals and the keys by turns, and a literal is the last one too. -/
structure Interleaves (literals keys : List α) (list : List (Segment α)) : Prop where
  length_eq : literals.length = keys.length + 1
  alternate_eq : alternate literals keys = list

theorem interleaves_segments (t : TemplateOf α) : Interleaves t.literals t.keys t.segments where
  length_eq := by rw [literals, keys, List.length_cons, List.length_map, List.length_map]
  alternate_eq := alternate_literals_keys t

/-- Only the literals and keys of a template are its segments by turns. -/
theorem Interleaves.exists_template {literals keys : List α} (h : Interleaves literals keys list) :
    ∃ t : TemplateOf α, t.segments = list ∧ t.literals = literals ∧ t.keys = keys := by
  obtain ⟨t, rfl, rfl⟩ := exists_of_lengths h.length_eq
  exact ⟨t, (alternate_literals_keys t).symm.trans h.alternate_eq, rfl, rfl⟩

theorem hasPlaceholders_iff : t.hasPlaceholders = true ↔ t.keys ≠ [] := by
  rw [hasPlaceholders, Bool.not_eq_true', List.isEmpty_eq_false_iff, keys, ne_eq, ne_eq,
    List.map_eq_nil_iff]

theorem eq_iff {u : TemplateOf α} : t = u ↔ t.literals = u.literals ∧ t.keys = u.keys := by
  constructor
  · rintro rfl
    exact ⟨rfl, rfl⟩
  · rintro ⟨hLiterals, hKeys⟩
    apply segments_injective
    rw [← alternate_literals_keys, ← alternate_literals_keys, hLiterals, hKeys]

/-- What is reported of segments that make up no template: how many there are, or the first place
where a segment of one kind stands and one of the other kind is to stand. -/
inductive Reported (list : List (Segment α)) : Problem → Prop where
  | evenCount (hEven : list.length % 2 = 0) :
    Reported list (ofMessage .invariant
      "Compiled template must hold an odd number of segments".toList
      [("segments".toList, .int list.length)])
  | literalInstead {before after : List (Segment α)} {t : α} (hOdd : list.length % 2 = 1)
    (hList : list = before ++ .literal t :: after) (hBefore : AllInTurn 0 before)
    (hPlace : before.length % 2 = 1) :
    Reported list (ofMessage .invariant
      ("Segment ".toList ++ natText before.length
        ++ " must be PlaceholderRef, got Literal".toList)
      [("index".toList, .int before.length)])
  | placeholderInstead {before after : List (Segment α)} {key : α} (hOdd : list.length % 2 = 1)
    (hList : list = before ++ .placeholder key :: after) (hBefore : AllInTurn 0 before)
    (hPlace : before.length % 2 = 0) :
    Reported list (ofMessage .invariant
      ("Segment ".toList ++ natText before.length
        ++ " must be Literal, got PlaceholderRef".toList)
      [("index".toList, .int before.length)])

theorem Refused.exists_problem {fault : Fault} (h : Refused list fault) :
    ∃ p, fault.problem? = some p ∧ Reported list p := by
  cases h with
  | evenCount hEven => exact ⟨_, rfl, .evenCount hEven⟩
  | outOfTurn hOdd hFirst =>
    obtain ⟨before, s, after, hList, rfl, hBefore, hs⟩ := hFirst
    cases s with
    | literal t =>
      have hPlace : before.length % 2 ≠ 0 := fun hEven => hs (iff_of_true rfl hEven)
      refine ⟨_, rfl, ?_⟩
      rw [if_neg hPlace]
      exact .literalInstead hOdd hList hBefore (Nat.mod_two_ne_zero.mp hPlace)
    | placeholder key =>
      have hPlace : before.length % 2 = 0 :=
        Decidable.of_not_not fun hOddPlace => hs (iff_of_false nofun hOddPlace)
      refine ⟨_, rfl, ?_⟩
      rw [if_pos hPlace]
      exact .placeholderInstead hOdd hList hBefore hPlace

/-- **Templates are literals and keys by turns.** Segments make up a template just when they are
some literals and keys by turns. These are its literals and keys then, and it finds them as every
other of its segments. Of all other segments a violated invariant is reported: an even number of
them, or else the first one that is not of the kind whose turn it is. Templates are equal when their
segments are, and that is when their literals and keys are. -/
theorem ofSegments_alternating (list : List (Segment α)) :
    ((∃ t, ofSegments list = .ok t) ↔ ∃ literals keys, Interleaves literals keys list)
      ∧ (∀ literals keys, Interleaves literals keys list → ∃ t, ofSegments list = .ok t
        ∧ t.literals = literals ∧ everyOther list = t.literals.map .literal
        ∧ t.keys = keys ∧ everyOther (list.drop 1) = t.keys.map .placeholder
        ∧ (t.hasPlaceholders = true ↔ keys ≠ []))
      ∧ ((¬ ∃ literals keys, Interleaves literals keys list) →
        ∃ fault p, ofSegments list = .error fault ∧ fault.problem? = some p ∧ Reported list p)
      ∧ ∀ t u : TemplateOf α, (t = u ↔ t.segments = u.segments)
        ∧ (t = u ↔ t.literals = u.literals ∧ t.keys = u.keys) := by
  have hMade : (∃ t, ofSegments list = .ok t) ↔
      ∃ literals keys, Interleaves literals keys list := by
    constructor
    · rintro ⟨t, h⟩
      obtain rfl := ofSegments_eq_ok_iff.mp h
      exact ⟨t.literals, t.keys, interleaves_segments t⟩
    · rintro ⟨literals, keys, h⟩
      obtain ⟨t, ht, -⟩ := h.exists_template
      exact ⟨t, ofSegments_eq_ok_iff.mpr ht⟩
  refine ⟨hMade, ?_, ?_, fun t u => ⟨⟨congrArg segments, segments_injective⟩, eq_iff⟩⟩
  · intro literals keys h
    obtain ⟨t, rfl, rfl, rfl⟩ := h.exists_template
    obtain ⟨hLiterals, hKeys⟩ := everyOther_segments t
    exact ⟨t, ofSegments_segments t, rfl, hLiterals, rfl, hKeys, hasPlaceholders_iff⟩
  · intro hNot
    cases hOutcome : ofSegments list with
    | ok t => exact absurd (hMade.mp ⟨t, hOutcome⟩) hNot
    | error fault =>
      obtain ⟨p, hProblem, hReported⟩ := (ofSegments_eq_error_iff.mp hOutcome).exists_problem
      exact ⟨fault, p, rfl, hProblem, hReported⟩

theorem ofSegments_alternating_greeting :
    ∃ t, ofSegments [.literal "Hello ".toList, .placeholder "name".toList, .literal "!".toList]
        = .ok t
      ∧ t.literals = ["Hello ".toList, "!".toList] ∧ t.keys = ["name".toList] := by
  obtain ⟨t, hMade, hLiterals, -, hKeys, -⟩ :=
    (ofSegments_alternating _).2.1 ["Hello ".toList, "!".toList] ["name".toList] ⟨rfl, rfl⟩
  exact ⟨t, hMade, hLiterals, hKeys⟩

end TemplateOf

end EventLoom
