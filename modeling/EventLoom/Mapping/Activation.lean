import EventLoom.Log.Entry
import EventLoom.Mapping.Basic
import EventLoom.Stream.DefaultTemplate
import EventLoom.Stream.Positions
import EventLoom.Template.Render

/-!
# Activating mappings

Activation turns a mapping and a stream into a mapper, which renders events. The text of the
template is compiled, and the keys of a custom template are checked against the stream's; a
default template has the stream's own keys and is not checked.

Every activation leaves one entry in the log, unless a resource cannot be read at all, in a way
that is no problem of configuration: then the fault is passed on as it is and nothing is logged.

## Results

* `activate_eq_ok` — the mapper of an activation belongs to the stream and renders its template.
-/

namespace EventLoom

open Text

/-- A compiled template with the positions of the stream that it was activated for. -/
structure Mapper where
  streamId : Text
  positions : Entries
  template : Template
  /-- The text that the template was compiled from. -/
  source : Text
  custom : Value
  emptyPolicy : EmptyPolicy

namespace Mapper

/-- Render the values of an event. -/
def render (m : Mapper) (values : Value) : Except Fault Text :=
  m.template.render values m.positions m.emptyPolicy

end Mapper

/-- What an activation comes to, with the entry that it leaves in the log. -/
structure Activation where
  result : Except Fault Mapper
  log : List Log.Entry

namespace Activation

/-- The entry for a mapping that is turned down. -/
def rejection (streamId : Text) (fault : Fault) : Log.Entry :=
  ⟨some streamId, .warning, "mapping_rejected".toList,
    (fault.problem?.map Problem.logFields).getD []⟩

/-- The entry for a mapping that is taken. -/
def acceptance (m : Mapper) : Log.Entry :=
  ⟨some m.streamId, .info, "mapping_activated".toList,
    [("custom".toList, m.custom), ("segments".toList, .int m.template.segments.length),
      ("placeholders".toList, .int m.template.keys.length)]⟩

/-- An activation that fails because of its mapping. -/
def reject (streamId : Text) (fault : Fault) : Activation :=
  ⟨.error fault, [rejection streamId fault]⟩

/-- An activation that never comes to its template. -/
def withoutText (streamId : Text) (fault : Fault) : Activation :=
  if fault.isConfiguration then reject streamId fault else ⟨.error fault, []⟩

end Activation

/-- The template for a stream's events, checked if it is a custom one. -/
def templateFor (s : Stream) (custom : Bool) (source : Text) : Except Fault Template := do
  let t ← Template.compile source
  if custom then t.validate (Positions.ofStream s).entries (.text s.id)
  return t

/-- The text of the template for a stream's events. -/
def templateText (mapping : OutputMapping) (s : Stream)
    (read? : Option (Text → Except Fault Text)) : Except Fault Text :=
  if mapping.isCustom then mapping.customText read? else .ok s.defaultTemplate

/-- Make a mapper out of a mapping and a stream. -/
def activate (mapping : OutputMapping) (s : Stream) (read? : Option (Text → Except Fault Text))
    (emptyPolicy : EmptyPolicy) : Activation :=
  match templateText mapping s read? with
  | .error fault => .withoutText s.id fault
  | .ok source =>
    match templateFor s mapping.isCustom source with
    | .error fault => .reject s.id fault
    | .ok t =>
      let mapper : Mapper :=
        ⟨s.id, (Positions.ofStream s).entries, t, source, mapping.custom, emptyPolicy⟩
      ⟨.ok mapper, [Activation.acceptance mapper]⟩

theorem activate_eq_ok {mapping : OutputMapping} {s : Stream}
    {read? : Option (Text → Except Fault Text)} {emptyPolicy : EmptyPolicy} {m : Mapper}
    (h : (activate mapping s read? emptyPolicy).result = .ok m) :
    m.streamId = s.id ∧ m.custom = mapping.custom ∧ m.template.written = m.source := by
  unfold activate at h
  split at h
  · simp only [Activation.withoutText, Activation.reject] at h
    split at h <;> cases h
  · split at h
    · cases h
    · rename_i source _ t hTemplate
      cases h
      refine ⟨rfl, rfl, ?_⟩
      simp only [templateFor, bind, Except.bind] at hTemplate
      split at hTemplate
      · cases hTemplate
      · rename_i t' hCompile
        -- the check decides whether the template is taken, not what it is
        have hSame : t' = t := by
          repeat' split at hTemplate
          all_goals cases hTemplate
          all_goals rfl
        rw [← hSame]
        exact Template.written_compile hCompile

end EventLoom
