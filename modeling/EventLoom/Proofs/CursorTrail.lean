import EventLoom.Proofs.Unclosed
import Mathlib.Order.Bounds.Basic

/-!
# The trail of a cursor

What `findPlaceholder` answers can be said by places of the whole text alone (`Finds`): the first
opening token at or behind the place of the cursor decides, and behind that the closing tokens. A
cursor that counts from the end, or one that lies beyond it, only moves that place.

A walk through a text asks again and again, each time from the end of the span that it got last.
The spans that it gets are a trail. Two tokens belong to every span, so a trail moves on by at least
four places with each span, and it never leaves the text. Therefore it comes to an end: either
nothing more is found, and the keys that were met on the way are those of the compiled template, or
an opening token is not closed, and compiling fails with the same fault.

## Results

* `finds_findPlaceholder`, `Finds.unique` — `Finds` tells the one answer that is given.
* `Span.Holds.length_eq` — a span is as long as its key and both tokens.
* `Trail.length_le` — a trail moves on by four places with each span.
* `exists_trail` — the trail that ends gives the keys of the compiled template.
* `findPlaceholder_first_trail_bounded` — all of this for every cursor and every text.
-/

namespace EventLoom

open Text

-- ---------------------------------------------------------------------------
-- Places from a cursor on
-- ---------------------------------------------------------------------------

/-- The places of a token from the place `c` on. -/
def Text.placesFrom (token t : Text) (c : Nat) : Set Nat := {p | c ≤ p ∧ StandsAt token t p}

theorem placesFrom_eq_empty_iff {token t : Text} {c : Nat} :
    placesFrom token t c = ∅ ↔ ¬ token <:+: t.drop c := by
  rw [Set.eq_empty_iff_forall_notMem, infix_iff_standsAt, not_exists]
  constructor
  · intro h p hStands
    exact h (c + p) ⟨Nat.le_add_right c p, standsAt_drop.mp hStands⟩
  · rintro h p ⟨hFrom, hStands⟩
    obtain ⟨d, rfl⟩ := Nat.exists_eq_add_of_le hFrom
    exact h d (standsAt_drop.mpr hStands)

/-- Where the rest of a text is broken at a token, there is the first place of the token. -/
theorem isLeast_of_breakAt? {token t before after : Text} {c : Nat} (hToken : token ≠ [])
    (h : breakAt? token (t.drop c) = some (before, after)) :
    IsLeast (placesFrom token t c) (c + before.length) := by
  refine ⟨⟨Nat.le_add_right .., ?_⟩, ?_⟩
  · rw [← standsAt_drop, StandsAt, breakAt?_eq_some h, List.append_assoc, List.drop_left]
    exact List.prefix_append ..
  · rintro p ⟨hFrom, hStands⟩
    obtain ⟨d, rfl⟩ := Nat.exists_eq_add_of_le hFrom
    exact Nat.add_le_add_left (le_of_standsAt hToken h (standsAt_drop.mpr hStands)) c

/-- The place of a cursor: negative ones count from the end, but not beyond the beginning. -/
theorem cursorPlace_eq (length : Nat) (cursor : Int) :
    (cursorPlace length cursor : Int) =
      if cursor < 0 then max 0 ((length : Int) + cursor) else cursor := by
  rw [cursorPlace]
  split <;> omega

/-- A cursor finds what its place finds. -/
theorem findPlaceholder_cursorPlace (t : Text) (cursor : Int) :
    findPlaceholder t cursor = findPlaceholder t (cursorPlace t.length cursor : Nat) := by
  rw [findPlaceholder_natCast]
  rfl

-- ---------------------------------------------------------------------------
-- What is found
-- ---------------------------------------------------------------------------

/-- The span is that of a placeholder in the text. -/
structure Span.Holds (span : Span) (t : Text) : Prop where
  written : (t.take span.stop).drop span.start = placeholder span.key
  stop_le : span.stop ≤ t.length
  isKey : IsKey span.key

/-- What is to be found in a text from the place `c` on. -/
inductive Finds (t : Text) (c : Nat) : Except Fault (Option Span) → Prop where
  | nothing (hNone : placesFrom openToken t c = ∅) : Finds t c (.ok none)
  | unclosed {s : Nat} (hFirst : IsLeast (placesFrom openToken t c) s)
    (hNone : placesFrom closeToken t (s + 2) = ∅) : Finds t c (.error (.malformedTemplate s))
  | span {span : Span} (hFirst : IsLeast (placesFrom openToken t c) span.start)
    (hHolds : span.Holds t) : Finds t c (.ok (some span))

theorem finds_findPlaceholder (t : Text) (c : Nat) : Finds t c (findPlaceholder t c) := by
  rw [findPlaceholder_natCast]
  cases hScan : scan (t.drop c) with
  | plain => exact .nothing (placesFrom_eq_empty_iff.mpr (scan_eq_plain_iff.mp hScan))
  | unclosed before =>
    obtain ⟨rest, hOpen, hClose⟩ := breakAt?_of_unclosed hScan
    refine .unclosed (isLeast_of_breakAt? openToken_ne_nil hOpen) ?_
    have hRest : t.drop (c + before.length + 2) = rest := by
      rw [Nat.add_assoc, ← List.drop_drop]
      exact drop_of_breakAt? hOpen
    rw [placesFrom_eq_empty_iff, hRest]
    exact hClose
  | hole before key after =>
    obtain ⟨hText, -, hKey⟩ := scan_eq_hole_iff.mp hScan
    have hLength := congrArg List.length hText
    simp only [length_placeholder, List.length_drop, List.length_append] at hLength
    refine .span (isLeast_of_breakAt? openToken_ne_nil (breakAt?_of_hole hScan)) ⟨?_, ?_, hKey⟩
    · show (t.take (c + before.length + (placeholder key).length)).drop (c + before.length) = _
      rw [List.drop_take, Nat.add_sub_cancel_left, ← List.drop_drop, hText, List.append_assoc,
        List.drop_left, List.take_left]
    · show c + before.length + (placeholder key).length ≤ t.length
      rw [length_placeholder]
      omega

namespace Span.Holds

variable {span : Span} {t : Text} (h : span.Holds t)
include h

/-- A span is as long as its key and both tokens. -/
theorem length_eq : span.stop = span.start + span.key.length + 4 := by
  have hLength := congrArg List.length h.written
  have hInside := h.stop_le
  rw [length_placeholder, List.length_drop, List.length_take] at hLength
  omega

theorem drop_start : t.drop span.start = placeholder span.key ++ t.drop span.stop := by
  have hBefore : span.start ≤ (t.take span.stop).length := by
    have := h.length_eq
    have := h.stop_le
    rw [List.length_take]
    omega
  calc t.drop span.start
      = (t.take span.stop ++ t.drop span.stop).drop span.start := by rw [List.take_append_drop]
    _ = placeholder span.key ++ t.drop span.stop := by
      rw [List.drop_append_of_le_length hBefore, h.written]

/-- The scan from the start of a span finds its key at once. -/
theorem scan_drop_start : scan (t.drop span.start) = .hole [] span.key (t.drop span.stop) := by
  refine scan_eq_hole_iff.mpr ⟨?_, ⟨by decide, by decide⟩, h.isKey⟩
  rw [h.drop_start, List.nil_append]

theorem standsAt_close : StandsAt closeToken t (span.start + 2 + span.key.length) := by
  have hClose := standsAt_drop.mp (standsAt_close_of_hole h.scan_drop_start)
  rwa [List.length_nil, Nat.zero_add, ← Nat.add_assoc] at hClose

/-- At one start there is one span only. -/
theorem unique {other : Span} (hOther : other.Holds t) (hStart : span.start = other.start) :
    span = other := by
  have hScan := h.scan_drop_start
  rw [hStart, hOther.scan_drop_start] at hScan
  simp only [Scan.hole.injEq] at hScan
  have hStop : span.stop = other.stop := by
    rw [h.length_eq, hOther.length_eq, hStart, hScan.2.1]
  cases span
  cases other
  simp_all

end Span.Holds

/-- There is one thing to be found. -/
theorem Finds.unique {t : Text} {c : Nat} {outcome other : Except Fault (Option Span)}
    (h : Finds t c outcome) (hOther : Finds t c other) : outcome = other := by
  have hSome : ∀ {s}, IsLeast (placesFrom openToken t c) s → placesFrom openToken t c ≠ ∅ :=
    fun hFirst => Set.nonempty_iff_ne_empty.mp ⟨_, hFirst.1⟩
  have hClosed : ∀ {s} {span : Span}, s = span.start → span.Holds t →
      placesFrom closeToken t (s + 2) ≠ ∅ := by
    rintro _ span rfl hHolds
    exact Set.nonempty_iff_ne_empty.mp ⟨_, Nat.le_add_right .., hHolds.standsAt_close⟩
  cases h with
  | nothing hNone =>
    cases hOther with
    | nothing => rfl
    | unclosed hFirst => exact absurd hNone (hSome hFirst)
    | span hFirst => exact absurd hNone (hSome hFirst)
  | unclosed hFirst hNone =>
    cases hOther with
    | nothing hNothing => exact absurd hNothing (hSome hFirst)
    | unclosed hFirst' => rw [hFirst.unique hFirst']
    | span hFirst' hHolds => exact absurd hNone (hClosed (hFirst.unique hFirst') hHolds)
  | span hFirst hHolds =>
    cases hOther with
    | nothing hNothing => exact absurd hNothing (hSome hFirst)
    | unclosed hFirst' hNone => exact absurd hNone (hClosed (hFirst'.unique hFirst) hHolds)
    | span hFirst' hHolds' => rw [hHolds.unique hHolds' (hFirst.unique hFirst')]

theorem findPlaceholder_eq_iff {t : Text} {c : Nat} {outcome : Except Fault (Option Span)} :
    findPlaceholder t c = outcome ↔ Finds t c outcome :=
  ⟨fun h => h ▸ finds_findPlaceholder t c, (finds_findPlaceholder t c).unique⟩

/-- A span that is found ends in the text, four places behind the cursor or more. -/
theorem Finds.bounds {t : Text} {c : Nat} {span : Span} (h : Finds t c (.ok (some span))) :
    c ≤ span.start ∧ span.start + 4 ≤ span.stop ∧ span.stop ≤ t.length := by
  cases h with
  | span hFirst hHolds =>
    have := hHolds.length_eq
    exact ⟨hFirst.1.1, by omega, hHolds.stop_le⟩

-- ---------------------------------------------------------------------------
-- Trails
-- ---------------------------------------------------------------------------

/-- Spans that are found one after the other, from `c` on and each time from the end of the last
one, and the place where the cursor stands then. -/
inductive Trail (t : Text) : Nat → List Span → Nat → Prop where
  | done (c : Nat) : Trail t c [] c
  | found {c stop : Nat} {span : Span} {spans : List Span}
    (hFound : findPlaceholder t c = .ok (some span)) (hRest : Trail t span.stop spans stop) :
    Trail t c (span :: spans) stop

namespace Trail

variable {t : Text} {c stop : Nat} {spans : List Span}

/-- A trail moves on by four places with each span. -/
theorem length_le (h : Trail t c spans stop) : c + 4 * spans.length ≤ stop := by
  induction h with
  | done => simp
  | found hFound _ ih =>
    have := (findPlaceholder_eq_iff.mp hFound).bounds
    rw [List.length_cons]
    omega

/-- A trail does not leave the text. -/
theorem stop_le (h : Trail t c spans stop) (hStart : c ≤ t.length) : stop ≤ t.length := by
  induction h with
  | done => exact hStart
  | found hFound _ ih => exact ih (findPlaceholder_eq_iff.mp hFound).bounds.2.2

/-- Where a trail has come to its end, every other trail from the same place is a part of it. -/
theorem prefix_of_last (h : Trail t c spans stop)
    (hLast : ∀ span, findPlaceholder t stop ≠ .ok (some span)) {more : List Span} {place : Nat}
    (hMore : Trail t c more place) : more <+: spans := by
  induction h generalizing more with
  | done =>
    cases hMore with
    | done => exact List.prefix_rfl
    | found hFound => exact absurd hFound (hLast _)
  | found hFound _ ih =>
    cases hMore with
    | done => exact List.nil_prefix
    | found hFound' hRest =>
      rw [hFound] at hFound'
      cases hFound'
      exact List.cons_prefix_cons.mpr ⟨rfl, ih hLast hRest⟩

end Trail

/-- The keys of the spans are those of the compiled template if nothing more is found where the
cursor stands, and otherwise compiling fails as the search does. -/
inductive Settles (spans : List Span) :
    Except Fault (Option Span) → Except Fault Template → Prop where
  | compiled {result : Template} (hKeys : result.keys = spans.map Span.key) :
    Settles spans (.ok none) (.ok result)
  | failed (fault : Fault) : Settles spans (.error fault) (.error fault)

theorem Settles.last_ne {spans : List Span} {last : Except Fault (Option Span)}
    {outcome : Except Fault Template} (h : Settles spans last outcome) (span : Span) :
    last ≠ .ok (some span) := by
  cases h with
  | compiled => exact nofun
  | failed => exact nofun

theorem Settles.keys_eq {spans : List Span} {last : Except Fault (Option Span)}
    {result : Template} (h : Settles spans last (.ok result)) :
    result.keys = spans.map Span.key := by
  cases h with
  | compiled hKeys => exact hKeys

theorem Settles.prepend {spans : List Span} {last : Except Fault (Option Span)}
    {outcome : Except Fault Template} (h : Settles spans last outcome) (before : Text)
    (span : Span) :
    Settles (span :: spans) last (outcome.map (Template.prepend before span.key)) := by
  cases h with
  | compiled hKeys =>
    refine .compiled ?_
    rw [Template.keys_prepend, hKeys, List.map_cons]
  | failed fault => exact .failed fault

namespace Template

/-- **From every place there is a trail that comes to an end**, and it settles what compiling the
rest of the text gives. -/
theorem exists_trail (t : Text) (c : Nat) :
    ∃ spans stop, Trail t c spans stop
      ∧ Settles spans (findPlaceholder t stop) (compileFrom c (t.drop c)) := by
  induction hLeft : t.length - c using Nat.strong_induction_on generalizing c with
  | _ n ih =>
    cases hFind : findPlaceholder t c with
    | error fault =>
      refine ⟨[], c, .done c, ?_⟩
      rw [hFind, compileFrom_of_not_closed hFind]
      exact .failed fault
    | ok found =>
      cases found with
      | none =>
        refine ⟨[], c, .done c, ?_⟩
        rw [hFind, compileFrom_of_none hFind]
        exact .compiled rfl
      | some span =>
        have hStop := findPlaceholder_stop hFind
        obtain ⟨spans, stop, hTrail, hSettles⟩ := ih (t.length - span.stop) (by omega) span.stop rfl
        refine ⟨span :: spans, stop, .found hFind hTrail, ?_⟩
        rw [compileFrom_of_span hFind]
        exact hSettles.prepend _ span

end Template

/-- **What is found from a cursor, and how often.** From every cursor, also a negative one or one
behind the text, the answer is told by the tokens from its place on, and a span that is found ends
behind that place, inside of the text, and has four places or more. So a walk that goes on from the
end of each span comes to an end. There is one way to go, no more spans on it than a quarter of the
text's length, and the keys of the compiled template are those of these spans. -/
theorem findPlaceholder_first_trail_bounded (t : Text) :
    (∀ cursor : Int, ∃ c : Nat,
      (c : Int) = (if cursor < 0 then max 0 ((t.length : Int) + cursor) else cursor)
      ∧ (∀ outcome, findPlaceholder t cursor = outcome ↔ Finds t c outcome)
      ∧ ∀ span, findPlaceholder t cursor = .ok (some span) →
          c < span.stop ∧ span.stop ≤ t.length ∧ 4 ≤ span.stop - span.start)
    ∧ (∃ spans stop, Trail t 0 spans stop
      ∧ Settles spans (findPlaceholder t stop) (Template.compile t)
      ∧ (∀ more place, Trail t 0 more place → more <+: spans)
      ∧ spans.length ≤ t.length / 4)
    ∧ ∀ result, Template.compile t = .ok result → result.keys.length ≤ t.length / 4 := by
  obtain ⟨spans, stop, hTrail, hSettles⟩ := Template.exists_trail t 0
  rw [List.drop_zero] at hSettles
  have hQuarter : spans.length ≤ t.length / 4 := by
    have hMoves := hTrail.length_le
    have hInside := hTrail.stop_le (Nat.zero_le _)
    omega
  refine ⟨fun cursor => ⟨cursorPlace t.length cursor, cursorPlace_eq .., ?_, ?_⟩,
    ⟨spans, stop, hTrail, hSettles, ?_, hQuarter⟩, ?_⟩
  · intro outcome
    rw [findPlaceholder_cursorPlace]
    exact findPlaceholder_eq_iff
  · intro span hFound
    rw [findPlaceholder_cursorPlace] at hFound
    have := (findPlaceholder_eq_iff.mp hFound).bounds
    omega
  · exact fun more place hMore => hTrail.prefix_of_last hSettles.last_ne hMore
  · intro result hResult
    rw [Template.compile] at hResult
    rw [hResult] at hSettles
    rw [hSettles.keys_eq, List.length_map]
    exact hQuarter

/-- From a cursor that counts from the end, the second of two opening tokens that overlap is the
first one to be found. A text of empty placeholders has as many keys as there can be. -/
theorem findPlaceholder_first_trail_bounded_overlap :
    findPlaceholder "\x7b\x7b\x7ba\x7d\x7d".toList (-5) = .ok (some ⟨1, 6, ['a']⟩)
    ∧ ∃ result, Template.compile "\x7b\x7b\x7d\x7d\x7b\x7b\x7d\x7d".toList = .ok result
      ∧ result.keys.length = 2
      ∧ result.keys.length ≤ "\x7b\x7b\x7d\x7d\x7b\x7b\x7d\x7d".toList.length / 4 := by
  constructor
  · obtain ⟨hFind, -⟩ :=
      findPlaceholder_first_trail_bounded "\x7b\x7b\x7ba\x7d\x7d".toList
    obtain ⟨c, hPlace, hFinds, -⟩ := hFind (-5)
    obtain rfl : c = 1 := Int.ofNat_inj.mp hPlace
    have hStands : StandsAt openToken "\x7b\x7b\x7ba\x7d\x7d".toList 1 := by
      rw [StandsAt]
      decide
    have hFirst : IsLeast (placesFrom openToken "\x7b\x7b\x7ba\x7d\x7d".toList 1) 1 :=
      ⟨⟨Nat.le_refl 1, hStands⟩, fun p hPlaces => hPlaces.1⟩
    exact (hFinds _).mpr (.span hFirst ⟨by decide, by decide, by decide, by decide⟩)
  · obtain ⟨-, -, hQuarter⟩ :=
      findPlaceholder_first_trail_bounded "\x7b\x7b\x7d\x7d\x7b\x7b\x7d\x7d".toList
    have hCanonical : Canonical [[], [], []] [[], []] :=
      ⟨rfl, by decide, by decide, by decide, by decide⟩
    obtain ⟨result, hCompile, -, hKeys⟩ := Template.compile_interleave hCanonical
    exact ⟨result, hCompile, by rw [hKeys]; rfl, hQuarter result hCompile⟩

end EventLoom
