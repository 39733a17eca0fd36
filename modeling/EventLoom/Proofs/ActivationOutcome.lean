import EventLoom.Proofs.RenderSafety
import EventLoom.Proofs.Unclosed
import EventLoom.Registry.Memory

/-!
# What an activation comes to

An activation goes through stages, and the first one that fails decides. The text has to be found
and must not be blank, it has to compile, and the stream has to have every key. Each stage can be
described by itself, without the others: where the text of a mapping stands (`ResolvesTo`) and why
there may be none (`Textless`), the first unclosed place of a text, and the first key that a stream
does not have. Put in order they are all the reasons for which a mapping is turned down
(`TurnedDown`), and at most one of them applies.

A mapping that is not custom meets none of these stages. It has nothing to be looked up, and its
template compiles and has the stream's own keys.

Either way the activation leaves exactly one entry in the log, which carries the name of the stream
and says what became of the mapping.

## Results

* `resolvesTo_or_textless` — a custom mapping has a text, or there is a reason why it has none.
* `validate_eq_error_iff` — the check of a template reports the first key without a position.
* `activate_of_turnedDown`, `activate_of_taken` — the stages decide about the whole activation.
* `activate_outcome` — what comes of every activation, and what is in the log then.
-/

namespace EventLoom

open Text

-- ---------------------------------------------------------------------------
-- The text of a mapping
-- ---------------------------------------------------------------------------

/-- All contents are texts, as they should be. -/
def Registry.HoldsTexts (resources : Entries) : Prop :=
  ∀ path content, Table.get? resources (.text path) = some content → ∃ t, content = .text t

namespace OutputMapping

/-- The text stands in the mapping itself or in the resource that the mapping names, and it is not
blank. -/
inductive ResolvesTo (m : OutputMapping) (resources? : Option Entries) (t : Text) : Prop where
  | inline (hSource : m.source = some (.inline (.text t))) (hText : isBlank t = false)
  | registry {path : Text} {resources : Entries}
      (hSource : m.source = some (.registry (.text path))) (hThere : resources? = some resources)
      (hContent : Table.get? resources (.text path) = some (.text t)) (hText : isBlank t = false)

/-- Why a mapping has no text: there are no resources at all, the one that it names is not among
them, or that one is blank. -/
inductive Textless (m : OutputMapping) (resources? : Option Entries) : Fault → Prop where
  | noResolver {path : Text} (hSource : m.source = some (.registry (.text path)))
      (hNone : resources? = none) : Textless m resources? (.noResolver path)
  | missing {path : Text} {resources : Entries}
      (hSource : m.source = some (.registry (.text path))) (hThere : resources? = some resources)
      (hContent : Table.get? resources (.text path) = none) :
      Textless m resources? (.missingResource path)
  | blank {path t : Text} {resources : Entries}
      (hSource : m.source = some (.registry (.text path))) (hThere : resources? = some resources)
      (hContent : Table.get? resources (.text path) = some (.text t)) (hText : isBlank t = true) :
      Textless m resources? .blankResource

section Text

variable {m : OutputMapping} (hCustom : m.isCustom = true)
include hCustom

theorem customText_inline {t : Text} (hSource : m.source = some (.inline (.text t)))
    (read? : Option (Text → Except Fault Text)) :
    m.customText read? = if isBlank t then .error .blankResource else .ok t := by
  rw [customText, if_neg (by simp [hCustom])]
  simp only [hSource]
  rfl

theorem customText_noResolver {path : Text} (hSource : m.source = some (.registry (.text path))) :
    m.customText none = .error (.noResolver path) := by
  rw [customText, if_neg (by simp [hCustom])]
  simp only [hSource]
  rfl

theorem customText_registry {path : Text} (hSource : m.source = some (.registry (.text path)))
    (read : Text → Except Fault Text) :
    m.customText (some read) =
      read path >>= fun t => if isBlank t then .error .blankResource else .ok t := by
  rw [customText, if_neg (by simp [hCustom])]
  simp only [hSource]

variable {resources? : Option Entries}

theorem customText_of_resolvesTo {t : Text} (h : m.ResolvesTo resources? t) :
    m.customText (resources?.map Registry.readMemory) = .ok t := by
  cases h with
  | inline hSource hText => rw [customText_inline hCustom hSource, hText, if_neg nofun]
  | registry hSource hThere hContent hText =>
    rw [hThere, Option.map_some, customText_registry hCustom hSource]
    refine bind_eq_ok_iff.mpr ⟨t, ?_, if_neg (by simp [hText])⟩
    rw [Registry.readMemory, Registry.lookUpMemory, hContent]
    rfl

theorem customText_of_textless {fault : Fault} (h : m.Textless resources? fault) :
    m.customText (resources?.map Registry.readMemory) = .error fault := by
  cases h with
  | noResolver hSource hNone => rw [hNone, Option.map_none, customText_noResolver hCustom hSource]
  | missing hSource hThere hContent =>
    rw [hThere, Option.map_some, customText_registry hCustom hSource]
    refine bind_eq_error_iff.mpr (.inl ?_)
    rw [Registry.readMemory, Registry.lookUpMemory, hContent]
    rfl
  | blank hSource hThere hContent hText =>
    rw [hThere, Option.map_some, customText_registry hCustom hSource]
    refine bind_eq_error_iff.mpr (.inr ⟨_, ?_, if_pos hText⟩)
    rw [Registry.readMemory, Registry.lookUpMemory, hContent]
    rfl

/-- **A custom mapping has a text, or there is a reason why it has none.** -/
theorem resolvesTo_or_textless (hCheck : m.check = .ok m)
    (hTexts : ∀ resources, resources? = some resources → Registry.HoldsTexts resources) :
    (∃ t, m.ResolvesTo resources? t) ∨ ∃ fault, m.Textless resources? fault := by
  obtain ⟨source, t, hSource, hContent, hText⟩ := ((check_eq_ok_iff m).mp hCheck).2 hCustom
  cases source with
  | inline content =>
    obtain rfl : content = .text t := hContent
    exact .inl ⟨t, .inline hSource hText⟩
  | registry path =>
    obtain rfl : path = .text t := hContent
    rcases hThere : resources? with _ | resources
    · exact .inr ⟨_, .noResolver hSource rfl⟩
    · rcases hFound : Table.get? resources (.text t) with _ | content
      · exact .inr ⟨_, .missing hSource rfl hFound⟩
      · obtain ⟨u, rfl⟩ := hTexts resources hThere t content hFound
        cases hBlank : isBlank u with
        | true => exact .inr ⟨_, .blank hSource rfl hFound hBlank⟩
        | false => exact .inl ⟨u, .registry hSource rfl hFound hBlank⟩

end Text

end OutputMapping

-- ---------------------------------------------------------------------------
-- The check of a template
-- ---------------------------------------------------------------------------

/-- The key has no position, and all keys of the template before it have one. -/
def Template.FirstUnknown (t : Template) (positions : Entries) (key : Text) : Prop :=
  ∃ front back, t.keys = front ++ key :: back
    ∧ (∀ k ∈ front, (Table.get? positions (.text k)).isSome = true)
    ∧ Table.get? positions (.text key) = none

/-- **The check of a template** reports the first key without a position. -/
theorem Template.validate_eq_error_iff {t : Template} {positions : Entries} {streamId : Value}
    {fault : Fault} :
    t.validate positions streamId = .error fault ↔
      ∃ key, fault = .unknownKey key streamId ∧ t.FirstUnknown positions key := by
  have hFirst : ∀ key, t.keys.find? (fun k => (Table.get? positions (.text k)).isNone) = some key ↔
      t.FirstUnknown positions key := by
    intro key
    rw [List.find?_eq_some_iff_append, FirstUnknown]
    constructor
    · rintro ⟨hNone, front, back, hKeys, hFront⟩
      exact ⟨front, back, hKeys, fun k hk => by simpa using hFront k hk, by simpa using hNone⟩
    · rintro ⟨front, back, hKeys, hFront, hNone⟩
      exact ⟨by simpa using hNone, front, back, hKeys, fun k hk => by simpa using hFront k hk⟩
  rw [validate]
  constructor
  · intro h
    split at h
    · rename_i key hFind
      cases h
      exact ⟨key, rfl, (hFirst key).mp hFind⟩
    · cases h
  · rintro ⟨key, rfl, hUnknown⟩
    rw [(hFirst key).mpr hUnknown]

-- ---------------------------------------------------------------------------
-- The stages in order
-- ---------------------------------------------------------------------------

/-- Why a custom mapping is turned down. Later reasons ask for what the stages before them give. -/
inductive TurnedDown (mapping : OutputMapping) (s : Stream) (resources? : Option Entries) :
    Fault → Prop where
  | textless {fault : Fault} (hText : mapping.Textless resources? fault) :
      TurnedDown mapping s resources? fault
  | malformed {text : Text} {position : Nat} (hText : mapping.ResolvesTo resources? text)
      (hUnclosed : FirstUnclosed text position) :
      TurnedDown mapping s resources? (.malformedTemplate position)
  | unknownKey {text key : Text} {t : Template} (hText : mapping.ResolvesTo resources? text)
      (hCompile : Template.compile text = .ok t)
      (hUnknown : t.FirstUnknown (Positions.ofStream s).entries key) :
      TurnedDown mapping s resources? (.unknownKey key (.text s.id))

/-- A custom mapping goes through all stages: its text compiles, and the stream has its keys. -/
def Taken (mapping : OutputMapping) (s : Stream) (resources? : Option Entries) : Prop :=
  ∃ text t, mapping.ResolvesTo resources? text ∧ Template.compile text = .ok t
    ∧ ∀ key ∈ t.keys, (Positions.ofStream s).contains (.text key) = true

section Stages

variable {mapping : OutputMapping} {s : Stream} {resources? : Option Entries} {policy : EmptyPolicy}

theorem taken_or_turnedDown (hCustom : mapping.isCustom = true)
    (hCheck : mapping.check = .ok mapping)
    (hTexts : ∀ resources, resources? = some resources → Registry.HoldsTexts resources) :
    Taken mapping s resources? ∨ ∃ fault, TurnedDown mapping s resources? fault := by
  rcases OutputMapping.resolvesTo_or_textless hCustom hCheck hTexts with ⟨text, hText⟩ | ⟨fault, h⟩
  · rcases hCompile : Template.compile text with fault | t
    · obtain ⟨position, -, hUnclosed⟩ := Template.compile_eq_error_iff.mp hCompile
      exact .inr ⟨_, .malformed hText hUnclosed⟩
    · rcases hChecked : t.validate (Positions.ofStream s).entries (.text s.id) with fault | _
      · obtain ⟨key, -, hUnknown⟩ := Template.validate_eq_error_iff.mp hChecked
        exact .inr ⟨_, .unknownKey hText hCompile hUnknown⟩
      · refine .inl ⟨text, t, hText, hCompile, ?_⟩
        intro key hKey
        rw [Positions.contains, Option.isSome_iff_exists]
        exact Template.validate_eq_ok_iff.mp hChecked key hKey
  · exact .inr ⟨fault, .textless h⟩

theorem activate_of_taken (hCustom : mapping.isCustom = true)
    (h : Taken mapping s resources?) :
    ∃ m, (activate mapping s (resources?.map Registry.readMemory) policy).result = .ok m := by
  obtain ⟨text, t, hText, hCompile, hKeys⟩ := h
  have hChecked : t.validate (Positions.ofStream s).entries (.text s.id) = .ok () := by
    rw [Template.validate_eq_ok_iff]
    intro key hKey
    have hContains := hKeys key hKey
    rw [Positions.contains, Option.isSome_iff_exists] at hContains
    exact hContains
  refine ⟨_, activate_eq_ok_iff.mpr ⟨text, t, ?_, ?_, rfl⟩⟩
  · rw [templateText, if_pos hCustom]
    exact OutputMapping.customText_of_resolvesTo hCustom hText
  · rw [hCustom]
    exact templateFor_custom_eq_ok_iff.mpr ⟨hCompile, hChecked⟩

theorem OutputMapping.Textless.isConfiguration {fault : Fault}
    (h : mapping.Textless resources? fault) : fault.isConfiguration = true := by
  cases h <;> rfl

theorem templateFor_custom_eq_error_iff {source : Text} {fault : Fault} :
    templateFor s true source = .error fault ↔
      Template.compile source = .error fault ∨ ∃ t, Template.compile source = .ok t
        ∧ t.validate (Positions.ofStream s).entries (.text s.id) = .error fault := by
  rw [templateFor, bind_eq_error_iff]
  apply or_congr_right
  apply exists_congr
  intro t
  apply and_congr_right
  intro _
  show (t.validate _ _ >>= fun _ => Except.ok t) = .error fault ↔ _
  rw [bind_eq_error_iff]
  apply or_iff_left
  rintro ⟨_, _, hOk⟩
  cases hOk

/-- **The reason for which a mapping is turned down** is the fault of the activation, and is what is
logged. -/
theorem activate_of_turnedDown (hCustom : mapping.isCustom = true) {fault : Fault}
    (h : TurnedDown mapping s resources? fault) :
    activate mapping s (resources?.map Registry.readMemory) policy = .reject s.id fault := by
  rw [activate, templateText, if_pos hCustom]
  cases h with
  | textless hText =>
    rw [OutputMapping.customText_of_textless hCustom hText]
    exact if_pos hText.isConfiguration
  | @malformed text position hText hUnclosed =>
    have hCompile : Template.compile text = .error (.malformedTemplate position) :=
      Template.compile_eq_error_iff.mpr ⟨position, rfl, hUnclosed⟩
    rw [OutputMapping.customText_of_resolvesTo hCustom hText, hCustom]
    simp only [templateFor_custom_eq_error_iff.mpr (.inl hCompile)]
  | @unknownKey text key t hText hCompile hUnknown =>
    have hChecked : t.validate (Positions.ofStream s).entries (.text s.id)
        = .error (.unknownKey key (.text s.id)) :=
      Template.validate_eq_error_iff.mpr ⟨key, rfl, hUnknown⟩
    rw [OutputMapping.customText_of_resolvesTo hCustom hText, hCustom]
    simp only [templateFor_custom_eq_error_iff.mpr (.inr ⟨t, hCompile, hChecked⟩)]

end Stages

-- ---------------------------------------------------------------------------
-- What is logged
-- ---------------------------------------------------------------------------

/-- What an activation that takes a mapping leaves in the log. -/
theorem log_of_activate_eq_ok {mapping : OutputMapping} {s : Stream}
    {read? : Option (Text → Except Fault Text)} {policy : EmptyPolicy} {m : Mapper}
    (h : (activate mapping s read? policy).result = .ok m) :
    (activate mapping s read? policy).log = [Activation.acceptance m] := by
  obtain ⟨source, t, hText, hTemplate, rfl⟩ := activate_eq_ok_iff.mp h
  rw [activate]
  simp only [hText, hTemplate]

namespace Activation

/-- The entry says for which stream a mapping was taken, and how long its template is. -/
structure Announces (entry : Log.Entry) (m : Mapper) : Prop where
  method_eq : entry.method = .info
  event_eq : entry.event = "mapping_activated".toList
  stream_eq : Table.get? entry.entries Log.streamField = some (.text m.streamId)
  placeholders_eq : Table.get? entry.entries (.text "placeholders".toList)
    = some (.int m.template.keys.length)
  segments_eq : Table.get? entry.entries (.text "segments".toList)
    = some (.int (2 * m.template.keys.length + 1))

/-- The entry says for which stream a mapping was turned down, and for what reason. -/
structure Reports (entry : Log.Entry) (streamId : Text) (problem : Problem) : Prop where
  method_eq : entry.method = .warning
  event_eq : entry.event = "mapping_rejected".toList
  stream_eq : Table.get? entry.entries Log.streamField = some (.text streamId)
  reason_eq : Table.get? entry.entries (.text "reason".toList) = some problem.code

theorem announces_acceptance (m : Mapper) : Announces (acceptance m) m := by
  constructor
  case segments_eq =>
    have hLength : (m.template.segments.length : Int) = 2 * m.template.keys.length + 1 := by
      rw [TemplateOf.length_segments]
      push_cast
      rfl
    rw [← hLength]
    rfl
  all_goals rfl

/-- Whatever a mapping is turned down for is a problem of configuration or of the mapping, and the
entry reports it. -/
theorem reports_rejection {mapping : OutputMapping} {s : Stream} {resources? : Option Entries}
    {fault : Fault} (h : TurnedDown mapping s resources? fault) :
    ∃ problem, fault.problem? = some problem
      ∧ (problem.subject.family = .configuration ∨ problem.subject.family = .mapping)
      ∧ Reports (rejection s.id fault) s.id problem := by
  cases h with
  | textless hText =>
    cases hText with
    | noResolver => exact ⟨_, rfl, .inl rfl, rfl, rfl, rfl, rfl⟩
    | missing => exact ⟨_, rfl, .inl rfl, rfl, rfl, rfl, rfl⟩
    | blank => exact ⟨_, rfl, .inl rfl, rfl, rfl, rfl, rfl⟩
  | malformed => exact ⟨_, rfl, .inr rfl, rfl, rfl, rfl, rfl⟩
  | unknownKey => exact ⟨_, rfl, .inr rfl, rfl, rfl, rfl, rfl⟩

end Activation

-- ---------------------------------------------------------------------------
-- Every activation
-- ---------------------------------------------------------------------------

section Outcome

variable {mapping : OutputMapping} {d : Declaration} {s : Stream} {resources? : Option Entries}

theorem exists_mapper (hAccept : d.accept = .ok s) (policy : EmptyPolicy)
    (h : mapping.isCustom = false ∨ Taken mapping s resources?) :
    ∃ m, (activate mapping s (resources?.map Registry.readMemory) policy).result = .ok m := by
  cases hCustom : mapping.isCustom with
  | false => exact ⟨_, activate_default (valid_of_accept hAccept) hCustom⟩
  | true =>
    rcases h with hDefault | hTaken
    · rw [hCustom] at hDefault
      cases hDefault
    · exact activate_of_taken hCustom hTaken

/-- The mapping is not custom, goes through all stages, or is turned down. -/
theorem stages_cases (hCheck : mapping.check = .ok mapping)
    (hTexts : ∀ resources, resources? = some resources → Registry.HoldsTexts resources)
    (s : Stream) :
    (mapping.isCustom = false ∨ Taken mapping s resources?)
      ∨ ∃ fault, mapping.isCustom = true ∧ TurnedDown mapping s resources? fault := by
  cases hCustom : mapping.isCustom with
  | false => exact .inl (.inl rfl)
  | true =>
    rcases taken_or_turnedDown hCustom hCheck hTexts with hTaken | ⟨fault, hReason⟩
    · exact .inl (.inr hTaken)
    · exact .inr ⟨fault, rfl, hReason⟩

/-- What has come of activating a mapping for a stream, and what is in the log. -/
structure Activation.Decided (a : Activation) (mapping : OutputMapping) (s : Stream)
    (resources? : Option Entries) : Prop where
  ok_iff : (∃ m, a.result = .ok m) ↔ mapping.isCustom = false ∨ Taken mapping s resources?
  error_iff : ∀ fault, a.result = .error fault ↔
    mapping.isCustom = true ∧ TurnedDown mapping s resources? fault
  /-- A mapper that is made is announced, and nothing else is logged. -/
  announced : ∀ m, a.result = .ok m →
    m.streamId = s.id ∧ ∃ entry, a.log = [entry] ∧ Announces entry m
  /-- A fault is a problem of configuration or of the mapping, and that is all that is logged. -/
  reported : ∀ fault, a.result = .error fault → ∃ problem, fault.problem? = some problem
    ∧ (problem.subject.family = .configuration ∨ problem.subject.family = .mapping)
    ∧ ∃ entry, a.log = [entry] ∧ Reports entry s.id problem

/-- **What comes of an activation**, for every mapping that is accepted, every accepted stream, and
any resources that hold texts, or none. It succeeds exactly if the mapping is not custom or goes
through all stages; otherwise its fault is the reason of the first stage that fails. Such a fault is
always a problem of configuration or of the mapping. One entry is logged and no other: the mapper is
announced, or the problem is reported. -/
theorem activate_outcome (hCheck : mapping.check = .ok mapping) (hAccept : d.accept = .ok s)
    (hTexts : ∀ resources, resources? = some resources → Registry.HoldsTexts resources)
    (policy : EmptyPolicy) :
    (activate mapping s (resources?.map Registry.readMemory) policy).Decided mapping s
      resources? := by
  have hError : ∀ fault, (activate mapping s (resources?.map Registry.readMemory) policy).result
      = .error fault → mapping.isCustom = true ∧ TurnedDown mapping s resources? fault := by
    intro fault hFault
    rcases stages_cases hCheck hTexts s with hTaken | ⟨reason, hCustom, hReason⟩
    · obtain ⟨m, hActive⟩ := exists_mapper hAccept policy hTaken
      rw [hActive] at hFault
      cases hFault
    · rw [activate_of_turnedDown hCustom hReason] at hFault
      cases hFault
      exact ⟨hCustom, hReason⟩
  constructor
  case ok_iff =>
    refine ⟨?_, exists_mapper hAccept policy⟩
    rintro ⟨m, hActive⟩
    rcases stages_cases hCheck hTexts s with hTaken | ⟨reason, hCustom, hReason⟩
    · exact hTaken
    · rw [activate_of_turnedDown hCustom hReason] at hActive
      cases hActive
  case error_iff =>
    intro fault
    refine ⟨hError fault, ?_⟩
    rintro ⟨hCustom, hReason⟩
    rw [activate_of_turnedDown hCustom hReason]
    rfl
  case announced =>
    intro m hActive
    exact ⟨(activate_eq_ok hActive).1, _, log_of_activate_eq_ok hActive,
      Activation.announces_acceptance m⟩
  case reported =>
    intro fault hFault
    obtain ⟨hCustom, hReason⟩ := hError fault hFault
    obtain ⟨problem, hProblem, hFamily, hReports⟩ := Activation.reports_rejection hReason
    refine ⟨problem, hProblem, hFamily, _, ?_, hReports⟩
    rw [activate_of_turnedDown hCustom hReason]
    rfl

end Outcome

/-- A template with a key that is no stream's, and one behind it. -/
def strayTemplate : Template := ⟨[], [⟨"a\x7b".toList, [' ']⟩, ⟨"nope".toList, []⟩, ⟨['b'], []⟩]⟩

/-- A resource that holds it. -/
def strayResources : Entries := [(.text "orders".toList, .text strayTemplate.written)]

/-- The mapping that names the resource. -/
def strayMapping : OutputMapping :=
  ⟨.bool true, some (.registry (.text "orders".toList)), .text OutputMapping.jsonType⟩

theorem activate_outcome_stray :
    ∃ fault entry, fault = .unknownKey "nope".toList (.text Stream.braced.id)
      ∧ (activate strayMapping .braced (some (Registry.readMemory strayResources)) .null).result
        = .error fault
      ∧ (activate strayMapping .braced (some (Registry.readMemory strayResources)) .null).log
        = [entry]
      ∧ Table.get? entry.entries (.text "reason".toList)
        = some (.text "schema_validation_error".toList) := by
  have hAccept : Stream.braced.declaration.accept = .ok Stream.braced := by rfl
  have hTexts : ∀ resources, some strayResources = some resources →
      Registry.HoldsTexts resources := by
    intro resources hResources path content hContent
    rw [← Option.some.inj hResources, strayResources, Table.get?_cons] at hContent
    split at hContent
    · cases hContent
      exact ⟨_, rfl⟩
    · cases hContent
  have hCheck : strayMapping.check = .ok strayMapping := rfl
  obtain ⟨-, hError, -, hReported⟩ := activate_outcome hCheck hAccept hTexts .null
  have hOpen : ∀ literal ∈ strayTemplate.literals, hasToken openToken literal = false := by decide
  have hClose : ∀ key ∈ strayTemplate.keys, hasToken closeToken key = false := by decide
  have hCompile : Template.compile strayTemplate.written = .ok strayTemplate :=
    Template.compile_written ⟨rfl, fun l hl => hasToken_eq_false_iff.mp (hOpen l hl), by decide,
      fun k hk => hasToken_eq_false_iff.mp (hClose k hk), by decide⟩
  have hFault := (hError (.unknownKey "nope".toList (.text Stream.braced.id))).mpr
    ⟨rfl, .unknownKey (.registry rfl rfl rfl (by decide)) hCompile
      ⟨["a\x7b".toList], [['b']], rfl, by decide, by rfl⟩⟩
  obtain ⟨problem, hProblem, -, entry, hLog, hEntry⟩ := hReported _ hFault
  refine ⟨_, entry, rfl, hFault, hLog, ?_⟩
  rw [hEntry.reason_eq, ← Option.some.inj hProblem]
  rfl

end EventLoom
