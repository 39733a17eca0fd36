import EventLoom.Problem.Basic
import EventLoom.Proofs.JsonRoundTrip

/-!
# What the text of a problem tells

A problem is reported as JSON on one line, so that a log can hold it as it is. Its code, message
and details are read back from there, and its cause if it has one. So problems with different codes,
messages, details or causes have different texts.

This holds of every problem whose code and message are texts and whose details form a tree, whatever
characters the texts, the names in the details and the description of the cause hold: the text of
such a problem is the form of a tree itself (`isTree_entries`).

## Results

* `space_le_of_mem_text` — the text is one line.
* `read_text` — what it says.
* `eq_of_text_eq` — it says all.
-/

namespace EventLoom.Problem

open Text

/-- Whether the problem has this code and this message, and has details that JSON can tell. -/
structure Tells (p : Problem) (code message : Text) : Prop where
  code : p.code = .text code
  message : p.message = .text message
  detail : (Value.dict p.detail).IsTree

/-- The members of the object that is told of a problem. -/
def told (p : Problem) (code message : Text) : Table Value :=
  [("code".toList, .text code), ("message".toList, .text message),
    ("detail".toList, .dict p.detail)] ++ match p.cause with
      | none => []
      | some cause => [("cause".toList, .text cause)]

variable {p : Problem} {code message : Text}

theorem dict_entries (h : p.Tells code message) :
    Value.dict p.entries = .ofTable (p.told code message) := by
  rw [entries, h.code, h.message, told]
  cases p.cause <;> rfl

theorem isTree_entries (h : p.Tells code message) : (Value.dict p.entries).IsTree := by
  rw [dict_entries h]
  refine .table ?_ fun member hMem => ?_
  · -- a cause is not told under a name that is there already
    cases hCause : p.cause with
    | none =>
      have hNames : Table.keys (p.told code message)
          = ["code".toList, "message".toList, "detail".toList] := by rw [told, hCause]; rfl
      rw [hNames]
      decide
    | some cause =>
      have hNames : Table.keys (p.told code message)
          = ["code".toList, "message".toList, "detail".toList, "cause".toList] := by
        rw [told, hCause]
        rfl
      rw [hNames]
      decide
  · rcases List.mem_append.mp hMem with hAlways | hCause
    · simp only [List.mem_cons, List.not_mem_nil, or_false] at hAlways
      rcases hAlways with rfl | rfl | rfl
      · exact .text code
      · exact .text message
      · exact h.detail
    · split at hCause
      · cases hCause
      · rw [List.mem_singleton] at hCause
        rw [hCause]
        exact .text _

/-- The text is one line. -/
theorem space_le_of_mem_text (h : p.Tells code message) {c : Char} (hc : c ∈ p.text) :
    0x20 ≤ c.toNat :=
  Json.space_le_of_mem_write Json.legible_spaced (isTree_entries h) hc

/-- The text says what is told, and no more. -/
theorem read_text (h : p.Tells code message) :
    Json.read p.text = some (.ofTable (p.told code message)) := by
  rw [← dict_entries h]
  exact Json.read_write Json.legible_spaced (isTree_entries h)

/-- Problems with one text are alike in all that is told of them. -/
theorem eq_of_text_eq {q : Problem} {code' message' : Text} (h : p.Tells code message)
    (h' : q.Tells code' message') (hText : q.text = p.text) :
    q.code = p.code ∧ q.message = p.message ∧ q.detail = p.detail ∧ q.cause = p.cause := by
  have hEntries : q.entries = p.entries := by
    have hDict := Json.write_injective Json.legible_spaced (isTree_entries h') (isTree_entries h)
      hText
    exact Value.dict.inj hDict
  obtain ⟨hTold, hCause⟩ := List.append_inj hEntries rfl
  simp only [List.cons.injEq, Prod.mk.injEq, true_and, Value.dict.injEq, and_true] at hTold
  refine ⟨hTold.1, hTold.2.1, hTold.2.2, ?_⟩
  cases hOne : q.cause <;> cases hOther : p.cause <;> simp_all

/-- **The text of a problem** whose code and message are texts and whose details form a tree is one
line of JSON. It says the code, the message, the details and, exactly if there is a cause, the
cause, in this order; and no other problem of this kind with a different code, message or details
has the same text. -/
theorem text_tells_all {p : Problem} {code message : Text} (h : p.Tells code message) :
    (∀ c ∈ p.text, 0x20 ≤ c.toNat)
      ∧ Json.read p.text = some (.ofTable (p.told code message))
      ∧ ∀ q code' message', Tells q code' message' → q.text = p.text →
          q.code = p.code ∧ q.message = p.message ∧ q.detail = p.detail ∧ q.cause = p.cause :=
  ⟨fun _ hc => space_le_of_mem_text h hc, read_text h, fun _ _ _ h' hText =>
    eq_of_text_eq h h' hText⟩

/-- A problem with unusual characters wherever they can be. -/
def garbled : Problem where
  subject := .plain .mapping (.text "over\ntwo \"lines\"".toList)
    [(.text "\\\"\t".toList, .list [.null, .bool true, .int (-30), .dict []]),
      (.text [], .dict [(.text "at".toList, .text "\x00, \u00E9".toList)])]
  statedCode := .text "\\n".toList
  cause := some "Fault('\n')".toList

theorem tells_garbled : garbled.Tells "\\n".toList "over\ntwo \"lines\"".toList where
  code := rfl
  message := rfl
  detail := by
    have hItems : (Value.list [.null, .bool true, .int (-30), .ofTable []]).IsTree := by
      refine .list ?_
      simp only [List.forall_mem_cons]
      exact ⟨.null, .bool true, .int (by decide +kernel), .table (by decide) (by simp), by simp⟩
    have hTable : (Value.ofTable [("at".toList, .text "\x00, \u00E9".toList)]).IsTree := by
      refine .table (by decide) ?_
      simp only [List.forall_mem_cons]
      exact ⟨.text _, by simp⟩
    have hDetail : (Value.ofTable [("\\\"\t".toList, .list [.null, .bool true, .int (-30),
        .ofTable []]), ([], .ofTable [("at".toList, .text "\x00, \u00E9".toList)])]).IsTree := by
      refine .table (by decide) ?_
      simp only [List.forall_mem_cons]
      exact ⟨hItems, hTable, by simp⟩
    exact hDetail

theorem text_tells_all_garbled :
    garbled.Tells "\\n".toList "over\ntwo \"lines\"".toList
      ∧ Json.read garbled.text
        = some (.ofTable (garbled.told "\\n".toList "over\ntwo \"lines\"".toList))
      ∧ '\n' ∉ garbled.text := by
  obtain ⟨hLine, hRead, -⟩ := text_tells_all tells_garbled
  exact ⟨tells_garbled, hRead, fun hIn => absurd (hLine '\n' hIn) (by decide)⟩

end EventLoom.Problem
