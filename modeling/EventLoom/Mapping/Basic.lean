import EventLoom.Text.Blank
import EventLoom.Value.Access

/-!
# Output mappings

An output mapping says where the template for a stream's events comes from. A custom mapping has
a source: the template itself, or the path of a resource that holds it. A mapping that is not
custom leaves the template to the stream; a source that it may have is not looked at.

Mappings are stated loosely: any value that counts as something makes a mapping custom, and what
a source holds is only looked at if the mapping is.

## Results

* `check_eq_ok_iff` — which mappings are accepted.
-/

namespace EventLoom

open Text

/-- Where a custom template comes from. -/
inductive Source where
  | inline (t : Value)
  | registry (path : Value)

/-- The template itself, or the path of the resource that holds it. -/
def Source.content : Source → Value
  | .inline t => t
  | .registry path => path

/-- What is to become of a stream's events. -/
structure OutputMapping where
  custom : Value
  source : Option Source
  type : Value

namespace OutputMapping

/-- The one type of output that there is. -/
def jsonType : Text := "json".toList

/-- Whether the mapping has a template of its own. -/
def isCustom (m : OutputMapping) : Bool := m.custom.isTruthy

/-- Whether there is nothing to read in what a source holds. -/
def isBlankContent (content : Value) : Except Fault Bool :=
  if !content.isTruthy then .ok true
  else
    match content with
    | .text t => .ok (isBlank t)
    | _ => .error .noSuchOperation

/-- Accept the mapping, or say what is wrong with it. -/
def check (m : OutputMapping) : Except Fault OutputMapping :=
  if m.type.asText? ≠ some jsonType then .error (.unsupportedType m.type)
  else if !m.isCustom then .ok m
  else
    match m.source with
    | none => .error .missingSource
    | some source =>
      match isBlankContent source.content with
      | .error fault => .error fault
      | .ok true => .error .blankSource
      | .ok false => .ok m

/-- A custom mapping with the template itself. -/
def inline (t : Value) : Except Fault OutputMapping :=
  check ⟨.bool true, some (.inline t), .text jsonType⟩

/-- A custom mapping with the path of a resource. -/
def registry (path : Value) : Except Fault OutputMapping :=
  check ⟨.bool true, some (.registry path), .text jsonType⟩

/-- The mapping that leaves the template to the stream. -/
def default : Except Fault OutputMapping := check ⟨.bool false, none, .text jsonType⟩

theorem isBlankContent_eq_false_iff (content : Value) :
    isBlankContent content = .ok false ↔ ∃ t, content = .text t ∧ isBlank t = false := by
  constructor
  · intro h
    unfold isBlankContent at h
    split at h
    · cases h
    · split at h
      · rename_i t _
        exact ⟨t, rfl, Except.ok.inj h⟩
      · cases h
  · rintro ⟨t, rfl, hBlank⟩
    have hTruthy : Value.isTruthy (.text t) = true := by
      cases t with
      | nil => simp [isBlank] at hBlank
      | cons c rest => rfl
    simp [isBlankContent, hTruthy, hBlank]

theorem check_eq_ok_iff (m : OutputMapping) :
    m.check = .ok m ↔ m.type = .text jsonType
      ∧ (m.isCustom = true → ∃ source t, m.source = some source ∧ source.content = .text t
          ∧ isBlank t = false) := by
  have hType : m.type.asText? = some jsonType ↔ m.type = .text jsonType := by
    cases m.type <;> simp [Value.asText?]
  by_cases hJson : m.type.asText? = some jsonType
  · rcases hCustom : m.isCustom with _ | _
    · simp [check, hCustom, ← hType, hJson]
    · rcases hSource : m.source with _ | source
      · simp [check, hCustom, hSource, hJson]
      · have hContent := isBlankContent_eq_false_iff source.content
        rcases hBlank : isBlankContent source.content with fault | blank
        · simp_all [check]
        · cases blank <;> simp_all [check]
  · simp [check, ← hType, hJson]

-- ---------------------------------------------------------------------------
-- The text of a custom template
-- ---------------------------------------------------------------------------

/-- The text of the custom template. `read?` gives the text of a resource, if there is anything
to ask for resources. -/
def customText (m : OutputMapping) (read? : Option (Text → Except Fault Text)) :
    Except Fault Text :=
  if !m.isCustom then .error .noCustomSource
  else do
    let t ←
      match m.source, read? with
      | none, _ => .error .noCustomSource
      | some (.inline (.text t)), _ => .ok t
      | some (.registry (.text path)), none => .error (.noResolver path)
      | some (.registry (.text path)), some read => read path
      | some _, _ => .error .noSuchOperation
    if isBlank t then .error .blankResource else .ok t

end OutputMapping

end EventLoom
