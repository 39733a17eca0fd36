import EventLoom.Number.Binary64
import EventLoom.Text.Basic

/-!
# Keys

What a table of values may have as a key. Numbers of different kinds are the same key if they
are equal, and truth values count as the numbers zero and one; a table shows the key that came
first.

## Results

* `beq_text_iff` — texts are the same key only if they are equal.
* `beq_text_iff_eq` — and nothing but a text is the same key as a text.
-/

namespace EventLoom

/-- A key of a table of values. -/
inductive Key where
  | null
  | bool (b : Bool)
  | int (n : Int)
  | float (x : Binary64)
  | text (t : Text)
  deriving Inhabited, Repr

namespace Key

/-- What decides whether two keys are the same. -/
inductive Identity where
  | null
  | whole (n : Int)
  | fractional (x : Binary64)
  | text (t : Text)
  deriving DecidableEq, Repr

/-- The identity of a key. -/
def identity : Key → Identity
  | .null => .null
  | .bool b => .whole b.toInt
  | .int n => .whole n
  | .float x =>
    match x.toInt? with
    | some n => .whole n
    | none => .fractional x
  | .text t => .text t

instance : BEq Key := ⟨fun a b => decide (a.identity = b.identity)⟩

theorem beq_iff (a b : Key) : (a == b) = true ↔ a.identity = b.identity := decide_eq_true_iff

instance : EquivBEq Key where
  rfl := (beq_iff _ _).2 rfl
  symm h := (beq_iff _ _).2 ((beq_iff _ _).1 h).symm
  trans h h' := (beq_iff _ _).2 (((beq_iff _ _).1 h).trans ((beq_iff _ _).1 h'))

instance : Coe Text Key := ⟨.text⟩

/-- The text, if the key is one. -/
def asText? : Key → Option Text
  | .text t => some t
  | _ => none

theorem beq_text_iff (t u : Text) : (Key.text t == Key.text u) = true ↔ t = u := by
  simp [beq_iff, identity]

theorem beq_text_of_ne {t u : Text} (h : t ≠ u) : (Key.text t == Key.text u) = false := by
  rw [Bool.eq_false_iff, Ne, beq_text_iff]
  exact h

/-- Only a text is the same key as a text. -/
theorem beq_text_iff_eq {key : Key} {name : Text} :
    (key == .text name) = true ↔ key = .text name := by
  rw [beq_iff]
  constructor
  · intro h
    cases key with
    | text t => rw [Identity.text.inj h]
    | float x =>
      rw [identity] at h
      split at h <;> cases h
    | null | bool b | int n => cases h
  · rintro rfl
    rfl

/-- Different texts are different keys. -/
theorem pairwise_text {names : List Text} (h : names.Nodup) :
    (names.map text).Pairwise fun a b => (a == b) = false := by
  rw [List.pairwise_map]
  exact h.imp beq_text_of_ne

end Key

end EventLoom
