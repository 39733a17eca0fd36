import EventLoom.Value.Arithmetic

/-!
# Outcomes

An outcome is a value or the fault that kept it from coming about. Steps on an outcome either
change it or ask something of it. A fault passes through every change as it is, and what the
change would have worked with is not looked at. A step that fails by itself, because it cannot
work with the value, leaves the outcome as it was.
-/

namespace EventLoom

open Text

/-- A value, or why there is none. -/
abbrev Outcome (α : Type) := Except Fault α

namespace Outcome

/-- Whether there is a value. -/
def isOk {α : Type} : Outcome α → Bool
  | .ok _ => true
  | .error _ => false

/-- The value, or another one in its place. -/
def valueOr {α : Type} (other : α) : Outcome α → α
  | .ok v => v
  | .error _ => other

/-- A step on an outcome. The operand of a change may itself be missing. -/
inductive Step where
  /-- Add to the value. -/
  | add (operand : Except Fault Value)
  /-- Go on from the value to another outcome: a text is the reason for a failure, anything else
  multiplies the value. -/
  | chain (operand : Except Fault Value)
  | isOk
  | isError
  | value
  | valueOr (other : Value)
  /-- A step that cannot be made, and why: on a value, and on a fault. -/
  | impossible (onValue onFault : Fault)

/-- What a step answers. -/
inductive Answer where
  | flag (b : Bool)
  | value (v : Value)
  | changed (outcome : Outcome Value)

/-- What a value is followed by when an operand is chained to it. -/
def follow (v operand : Value) : Except Fault (Outcome Value) :=
  match operand with
  | .text _ => .ok (.error (.mappingFailed operand))
  | _ => do return .ok (← v.times operand)

/-- Change an outcome; a fault stays. -/
def change (current : Outcome Value) (f : Value → Except Fault (Outcome Value)) :
    Outcome Value × Except Fault Answer :=
  match current with
  | .error _ => (current, .ok (.changed current))
  | .ok v =>
    match f v with
    | .ok next => (next, .ok (.changed next))
    | .error fault => (current, .error fault)

/-- Make one step: the outcome behind it, and what is answered. -/
def make (current : Outcome Value) : Step → Outcome Value × Except Fault Answer
  | .add operand => change current fun v => do return .ok (← v.plus (← operand))
  | .chain operand => change current fun v => do follow v (← operand)
  | .isOk => (current, .ok (.flag current.isOk))
  | .isError => (current, .ok (.flag !current.isOk))
  | .value => (current, current.map .value)
  | .valueOr other => (current, .ok (.value (current.valueOr other)))
  | .impossible onValue onFault => (current, .error (if current.isOk then onValue else onFault))

/-- The answers of steps that are made one after the other. -/
def run (current : Outcome Value) : List Step → List (Except Fault Answer)
  | [] => []
  | step :: rest =>
    let (next, answer) := make current step
    answer :: run next rest

end Outcome

end EventLoom
