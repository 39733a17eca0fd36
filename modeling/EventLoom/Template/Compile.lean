import EventLoom.Template.Basic

/-!
# Compiling templates

A placeholder begins at the first opening token, and its key reaches to the first closing token
behind that; what stands between the two is the key, character for character. An opening token
without a closing one behind it is an error at the place of the opening token. Tokens inside a
key, and closing tokens outside of a placeholder, mean nothing.

`findPlaceholder` looks for one placeholder from a given place on, and `compile` splits a whole
text.

## Results

* `scan_eq_hole` — what `scan` finds, put together again, is the text.
* `written_compile` — a compiled template, written out, is the text that it came from.
-/

namespace EventLoom

open Text

-- ---------------------------------------------------------------------------
-- The first placeholder
-- ---------------------------------------------------------------------------

/-- What a text holds up to the end of its first placeholder. -/
inductive Scan where
  /-- There is no opening token. -/
  | plain
  /-- The first opening token comes behind `before`, and nothing closes it. -/
  | unclosed (before : Text)
  /-- A placeholder with the text before and behind it. -/
  | hole (before key after : Text)
  deriving DecidableEq, Repr

/-- Look for the first placeholder of a text. -/
def scan (t : Text) : Scan :=
  match breakAt? openToken t with
  | none => .plain
  | some (before, rest) =>
    match breakAt? closeToken rest with
    | none => .unclosed before
    | some (key, after) => .hole before key after

theorem scan_eq_hole {t before key after : Text} (h : scan t = .hole before key after) :
    t = before ++ placeholder key ++ after := by
  simp only [scan] at h
  split at h
  · simp at h
  · rename_i hOpen
    split at h
    · simp at h
    · rename_i hClose
      simp only [Scan.hole.injEq] at h
      obtain ⟨rfl, rfl, rfl⟩ := h
      rw [breakAt?_eq_some hOpen, breakAt?_eq_some hClose]
      simp [placeholder]

theorem length_of_scan {t before key after : Text} (h : scan t = .hole before key after) :
    after.length < t.length := by
  have := congrArg List.length (scan_eq_hole h)
  simp only [placeholder, List.length_append, openToken, List.length_cons, List.length_nil] at this
  omega

-- ---------------------------------------------------------------------------
-- Finding from a place on
-- ---------------------------------------------------------------------------

/-- Where a placeholder stands: from `start`, up to but not including `stop`. -/
structure Span where
  start : Nat
  stop : Nat
  key : Text
  deriving DecidableEq, Repr

/-- The place in a text of the given length that a cursor means. A negative cursor counts from
the end. -/
def cursorPlace (length : Nat) (cursor : Int) : Nat :=
  if cursor < 0 then (length + cursor).toNat else cursor.toNat

/-- The first placeholder at or behind the cursor. -/
def findPlaceholder (t : Text) (cursor : Int) : Except Fault (Option Span) :=
  let place := cursorPlace t.length cursor
  match scan (t.drop place) with
  | .plain => .ok none
  | .unclosed before => .error (.malformedTemplate (place + before.length))
  | .hole before key _ =>
    let start := place + before.length
    .ok (some ⟨start, start + (placeholder key).length, key⟩)

-- ---------------------------------------------------------------------------
-- Compiling
-- ---------------------------------------------------------------------------

namespace Template

/-- Split a text that begins at `offset` of the whole. -/
def compileFrom (offset : Nat) (t : Text) : Except Fault Template :=
  match h : scan t with
  | .plain => .ok ⟨t, []⟩
  | .unclosed before => .error (.malformedTemplate (offset + before.length))
  | .hole before key after =>
    have := length_of_scan h
    match compileFrom (offset + before.length + (placeholder key).length) after with
    | .error fault => .error fault
    | .ok rest => .ok ⟨before, ⟨key, rest.lead⟩ :: rest.holes⟩
termination_by t.length

/-- Split a text into literals and placeholders. -/
def compile (t : Text) : Except Fault Template := compileFrom 0 t

theorem written_compileFrom {offset : Nat} {t : Text} {result : Template}
    (h : compileFrom offset t = .ok result) : result.written = t := by
  fun_induction compileFrom offset t generalizing result with
  | case1 offset t hScan =>
    cases h
    simp [written]
  | case2 => cases h
  | case3 => cases h
  | case4 offset t before key after hScan hLength rest hRest ih =>
    cases h
    have := ih hRest
    rw [scan_eq_hole hScan, ← this]
    simp [written]

theorem written_compile {t : Text} {result : Template} (h : compile t = .ok result) :
    result.written = t :=
  written_compileFrom h

end Template

end EventLoom
