import EventLoom.Proofs.Canonical

/-!
# Walking a cursor through a text

Compiling can also be told as a walk: a cursor stands at a place of the whole text,
`findPlaceholder` looks for the next placeholder from there on, the text in between and the
placeholder become two segments, and the cursor moves behind the placeholder. When nothing more is
found the rest is the last segment, and the segments are put together by `ofSegments`, which checks
that literals and placeholders alternate.

`compile` never sees a cursor, and what it returns alternates by construction. Both ways come to
the same, so the check at the end of the walk never fails.

## Results

* `findPlaceholder_stop` — the cursor moves forward and stays inside of the text.
* `collectFrom_eq_map_segments` — the walk collects the segments of the compiled template.
* `ofSegments_of_collect` — what the walk collects passes the check and is the compiled template.
-/

namespace EventLoom

open Text

-- ---------------------------------------------------------------------------
-- One step
-- ---------------------------------------------------------------------------

theorem findPlaceholder_natCast (t : Text) (cursor : Nat) :
    findPlaceholder t cursor =
      match scan (t.drop cursor) with
      | .plain => .ok none
      | .unclosed before => .error (.malformedTemplate (cursor + before.length))
      | .hole before key _ =>
        .ok (some ⟨cursor + before.length, cursor + before.length + (placeholder key).length,
          key⟩) := by
  have hPlace : cursorPlace t.length cursor = cursor := by
    rw [cursorPlace, if_neg (by omega), Int.toNat_natCast]
  cases hScan : scan (t.drop cursor) <;> simp only [findPlaceholder, hPlace, hScan]

/-- A span that is found comes from the scan of the rest of the text. -/
theorem scan_of_findPlaceholder {t : Text} {cursor : Nat} {span : Span}
    (h : findPlaceholder t cursor = .ok (some span)) :
    ∃ before after, scan (t.drop cursor) = .hole before span.key after
      ∧ span.start = cursor + before.length
      ∧ span.stop = cursor + before.length + (placeholder span.key).length := by
  rw [findPlaceholder_natCast] at h
  split at h
  · cases h
  · cases h
  · rename_i before key after hScan
    cases h
    exact ⟨before, after, hScan, rfl, rfl⟩

/-- What is left behind a placeholder that is found. -/
theorem drop_of_scan {t before key after : Text} (h : scan t = .hole before key after) :
    t.drop (before.length + (placeholder key).length) = after := by
  rw [scan_eq_hole h, ← List.length_append, List.drop_left]

/-- The cursor moves forward and stays inside of the text. -/
theorem findPlaceholder_stop {t : Text} {cursor : Nat} {span : Span}
    (h : findPlaceholder t cursor = .ok (some span)) :
    cursor < span.stop ∧ span.stop ≤ t.length := by
  obtain ⟨before, after, hScan, -, hStop⟩ := scan_of_findPlaceholder h
  have hLength := congrArg List.length (scan_eq_hole hScan)
  simp only [length_placeholder, List.length_drop, List.length_append] at hLength hStop
  omega

-- ---------------------------------------------------------------------------
-- The whole walk
-- ---------------------------------------------------------------------------

namespace Template

/-- The segments that a cursor collects on its way from a place to the end of the text. -/
def collectFrom (t : Text) (cursor : Nat) : Except Fault (List (Segment Text)) :=
  match h : findPlaceholder t cursor with
  | .error fault => .error fault
  | .ok none => .ok [.literal (t.drop cursor)]
  | .ok (some span) =>
    have := findPlaceholder_stop h
    match collectFrom t span.stop with
    | .error fault => .error fault
    | .ok rest => .ok (.literal ((t.take span.start).drop cursor) :: .placeholder span.key :: rest)
termination_by t.length - cursor

/-- The segments that a cursor collects on its way through the text. -/
def collect (t : Text) : Except Fault (List (Segment Text)) := collectFrom t 0

theorem compileFrom_of_none {t : Text} {cursor : Nat} (h : findPlaceholder t cursor = .ok none) :
    compileFrom cursor (t.drop cursor) = .ok ⟨t.drop cursor, []⟩ := by
  rw [findPlaceholder_natCast] at h
  split at h
  · rename_i hScan
    exact compileFrom_of_plain hScan
  · cases h
  · cases h

theorem compileFrom_of_not_closed {t : Text} {cursor : Nat} {fault : Fault}
    (h : findPlaceholder t cursor = .error fault) :
    compileFrom cursor (t.drop cursor) = .error fault := by
  rw [findPlaceholder_natCast] at h
  split at h
  · cases h
  · rename_i before hScan
    cases h
    exact compileFrom_of_unclosed hScan
  · cases h

/-- Compiling the rest of a text goes on behind the span that is found in it. -/
theorem compileFrom_of_span {t : Text} {cursor : Nat} {span : Span}
    (h : findPlaceholder t cursor = .ok (some span)) :
    compileFrom cursor (t.drop cursor) =
      (compileFrom span.stop (t.drop span.stop)).map
        (prepend ((t.take span.start).drop cursor) span.key) := by
  obtain ⟨before, after, hScan, hStart, hStop⟩ := scan_of_findPlaceholder h
  have hBefore : (t.take span.start).drop cursor = before := by
    rw [List.drop_take, scan_eq_hole hScan, hStart, Nat.add_sub_cancel_left,
      List.append_assoc, List.take_left]
  have hAfter : t.drop span.stop = after := by
    rw [hStop, Nat.add_assoc, ← List.drop_drop, drop_of_scan hScan]
  rw [compileFrom_of_hole hScan, hBefore, hAfter, hStop]

/-- From every place the walk collects the segments of the rest, compiled. -/
theorem collectFrom_eq_map_segments (t : Text) (cursor : Nat) :
    collectFrom t cursor = (compileFrom cursor (t.drop cursor)).map TemplateOf.segments := by
  fun_induction collectFrom t cursor with
  | case1 cursor fault h =>
    rw [compileFrom_of_not_closed h]
    rfl
  | case2 cursor h =>
    rw [compileFrom_of_none h]
    rfl
  | case3 cursor span h hStop fault hRest ih =>
    rw [compileFrom_of_span h]
    rw [hRest] at ih
    cases hCompile : compileFrom span.stop (t.drop span.stop) with
    | error fault' =>
      rw [hCompile] at ih
      cases ih
      rfl
    | ok result =>
      rw [hCompile] at ih
      cases ih
  | case4 cursor span h hStop rest hRest ih =>
    rw [compileFrom_of_span h]
    rw [hRest] at ih
    cases hCompile : compileFrom span.stop (t.drop span.stop) with
    | error fault =>
      rw [hCompile] at ih
      cases ih
    | ok result =>
      rw [hCompile] at ih
      cases ih
      rfl

theorem collect_eq_map_segments (t : Text) :
    collect t = (compile t).map TemplateOf.segments :=
  collectFrom_eq_map_segments t 0

/-- What the walk collects passes the check at its end and is the compiled template. -/
theorem ofSegments_of_collect {t : Text} {list : List (Segment Text)} (h : collect t = .ok list) :
    ∃ result, TemplateOf.ofSegments list = .ok result ∧ compile t = .ok result := by
  rw [collect_eq_map_segments] at h
  cases hCompile : compile t with
  | error fault =>
    rw [hCompile] at h
    cases h
  | ok result =>
    rw [hCompile] at h
    cases h
    exact ⟨result, TemplateOf.ofSegments_segments result, rfl⟩

end Template

end EventLoom
