import EventLoom.Proofs.DefaultTemplate
import EventLoom.Proofs.Escapes

/-!
# The check of names is exact

A default template can be made of any names. The check that a stream makes of its names turns down
no more of them than it has to: if the only name is one that the check turns down, its template does
not give the name back as the one key.

Escapes, the two replacements and the scan all have their part in this, and it may seem that what
one of them spoils another could repair. But a name that is found as a key holds no closing token.
So the only ones are at the end of the template, and the key is all that stands between the first
opening token and them (`compile_soleTemplate`). If the name held an opening token, the first one
would be in the name's first place, and behind it would come the colon, another opening token and
the name's second place, all of it in the key: more opening braces than the name has
(`not_open_of_found`). So the first opening token is that of the placeholder, and the key is the
name as JSON writes it, which is the name only if JSON has nothing to escape in it.

## Results

* `unquote_soleObject` — what the replacements do to the object of one name.
* `compile_soleTemplate` — the template of one name has one key, between the first opening token and
  the end.
* `breakAt?_soleFront` — which is the name as JSON writes it, if no token opens in the name.
* `compile_sole_iff_isPlaceholderSafe` — the name comes back as the one key exactly if the check
  lets it pass.
-/

namespace EventLoom

open Text

/-- A stream with one attribute, which is in the payload. Its name may be any text. -/
def Stream.sole (title version : Value) (name : Text) : Stream := ⟨title, version, [], [], [name]⟩

-- ---------------------------------------------------------------------------
-- The object of one name
-- ---------------------------------------------------------------------------

/-- What the object of one name begins with. -/
def soleStart : Text := groupStart eventStart .payload

theorem tokenless_soleStart : Tokenless soleStart := tokenless_groupStart (.inl rfl) .payload

/-- What the object of one name ends with. -/
def soleEnd : Text := ['}', '}', '}']

/-- The object of one name up to where its placeholder is closed. -/
def soleObject (name : Text) : Text :=
  soleStart ++ Json.writeText name ++ ':' :: (quotedOpen ++ Json.escape name)

/-- The same without the quotes in front of opening tokens. -/
def soleFront (name : Text) : Text := replaceAll quotedOpen openToken (soleObject name)

theorem writeText_placeholder_eq (name : Text) :
    Json.writeText (placeholder name) = quotedOpen ++ Json.escape name ++ quotedClose := by
  have hOpen : Json.escape openToken = openToken := by decide
  have hClose : Json.escape closeToken = closeToken := by decide
  rw [Json.writeText, placeholder, Json.escape_append, Json.escape_append, hOpen, hClose]
  simp [quotedOpen, quotedClose]

theorem defaultTemplate_sole (title version : Value) (name : Text) :
    (Stream.sole title version name).defaultTemplate
      = unquotePlaceholders (soleObject name ++ (quotedClose ++ soleEnd)) := by
  let names := (Stream.sole title version name).names
  have hWrite : Json.write .compact (eventObject (fun a => .text (placeholder a.key)) names)
      = spell (fun key => Json.writeText (placeholder key)) (eventRuns names) (eventLast names) :=
    write_eventObject fun _ _ _ => rfl
  have hRuns : eventRuns (Stream.sole title version name).names
      = [⟨soleStart ++ Json.writeText name ++ [':'], name⟩] := rfl
  have hLast : eventLast (Stream.sole title version name).names = soleEnd := rfl
  rw [Stream.defaultTemplate, defaultTemplateOf, hWrite, hRuns, hLast, spell_cons, spell_nil,
    writeText_placeholder_eq, soleObject]
  simp only [List.append_assoc, List.cons_append, List.nil_append]

-- ---------------------------------------------------------------------------
-- Braces in the object
-- ---------------------------------------------------------------------------

section Sole

variable {name : Text}

theorem open_infix_escape : openToken <:+: Json.escape name ↔ openToken <:+: name :=
  Json.pair_infix_escape (by decide) (by decide) name

theorem close_infix_escape : closeToken <:+: Json.escape name ↔ closeToken <:+: name :=
  Json.pair_infix_escape (by decide) (by decide) name

theorem soleObject_eq (name : Text) :
    soleObject name = soleStart ++ ['"'] ++ Json.escape name ++ ['"', ':', '"', '{', '{']
      ++ Json.escape name := by
  simp [soleObject, Json.writeText, quotedOpen, openToken]

/-- The object of one name holds a closing token only if the name does. -/
theorem not_close_infix_soleFront (h : ¬ closeToken <:+: name) :
    ¬ closeToken <:+: soleFront name := by
  intro hFront
  have hObject : closeToken <:+: soleObject name :=
    (replaced_replaceAll (by decide) _).pair_was_there (by decide) hFront
  have hParts : closeToken <:+: soleStart ∨ closeToken <:+: Json.escape name := by
    rw [soleObject_eq, closeToken, pair_infix_around (by decide) (by decide),
      pair_infix_around (by decide) (by decide), or_assoc, or_self] at hObject
    exact hObject
  rcases hParts with hStart | hName
  · exact tokenless_soleStart.2 hStart
  · exact h (close_infix_escape.mp hName)

/-- It ends as the name does, or behind an opening token if there is no name. -/
theorem getLast?_soleFront (h : name.getLast? ≠ some '}') :
    (soleFront name).getLast? ≠ some '}' := by
  have hSame : (soleFront name).getLast? = (soleObject name).getLast? :=
    (replaced_replaceAll (by decide) _).getLast?_eq (by decide)
  rw [hSame, soleObject_eq, List.getLast?_append]
  intro hLast
  cases hName : (Json.escape name).getLast? with
  | some c =>
    rw [hName, Option.some_or] at hLast
    exact h (Json.getLast?_escape_eq_some (by decide) (hName.trans hLast))
  | none =>
    rw [hName, Option.none_or, List.getLast?_append] at hLast
    revert hLast
    simp

/-- The template of one name is its object without the quotes around the placeholder. -/
theorem unquote_soleObject (h : ¬ closeToken <:+: name) :
    unquotePlaceholders (soleObject name ++ (quotedClose ++ soleEnd))
      = soleFront name ++ closeToken ++ soleEnd := by
  -- no quoted opening token reaches over a closing brace
  have hOpen : replaceAll quotedOpen openToken (soleObject name ++ (quotedClose ++ soleEnd))
      = soleFront name ++ quotedClose ++ soleEnd := by
    have hEnd : replaceAll quotedOpen openToken (['}', '"'] ++ soleEnd)
        = ['}', '"'] ++ soleEnd := by decide
    calc replaceAll quotedOpen openToken (soleObject name ++ (quotedClose ++ soleEnd))
        = replaceAll quotedOpen openToken (soleObject name ++ '}' :: (['}', '"'] ++ soleEnd)) :=
          rfl
      _ = soleFront name ++ '}' :: (['}', '"'] ++ soleEnd) := by
          rw [replaceAll_append_of_not_mem (by decide) (by decide), hEnd, soleFront]
      _ = soleFront name ++ quotedClose ++ soleEnd := by
          rw [List.append_assoc]
          rfl
  have hClosed : ¬ quotedClose <:+: soleFront name := fun hIn =>
    not_close_infix_soleFront h ((List.prefix_append closeToken ['"']).isInfix.trans hIn)
  have hEnd : replaceAll quotedClose closeToken soleEnd = soleEnd := by decide
  rw [unquotePlaceholders, ← quotedOpen, ← quotedClose, hOpen,
    replaceAll_append_token unbordered_quotedClose (by decide) hClosed, hEnd]

-- ---------------------------------------------------------------------------
-- The key that is found
-- ---------------------------------------------------------------------------

/-- In front of the name's second place stands an opening token. -/
theorem soleFront_eq (name : Text) :
    soleFront name = replaceAll quotedOpen openToken (soleStart ++ Json.writeText name)
      ++ ':' :: (openToken ++ replaceAll quotedOpen openToken (Json.escape name)) := by
  have hToken : replaceAll quotedOpen openToken (quotedOpen ++ Json.escape name)
      = openToken ++ replaceAll quotedOpen openToken (Json.escape name) := by
    have hNone : ¬ quotedOpen <:+: [] := by decide
    exact replaceAll_append_token unbordered_quotedOpen (by decide) hNone
  rw [soleFront, soleObject, replaceAll_append_of_not_mem (by decide) (by decide), hToken]

/-- The first opening token of the template. -/
theorem exists_breakAt?_soleFront (name : Text) :
    ∃ lead key, breakAt? openToken (soleFront name) = some (lead, key) := by
  cases hBreak : breakAt? openToken (soleFront name) with
  | some parts => exact ⟨parts.1, parts.2, rfl⟩
  | none =>
    refine absurd ?_ (breakAt?_eq_none_iff.mp hBreak)
    rw [soleFront_eq]
    exact ⟨_ ++ [':'], _, by rw [List.append_assoc, List.append_assoc]; rfl⟩

/-- **The template of one name** that does not close a placeholder early has one key, which is all
that stands between the first opening token and the end. -/
theorem compile_soleTemplate (hName : IsKey name) {lead key : Text}
    (hBreak : breakAt? openToken (soleFront name) = some (lead, key)) (title version : Value) :
    Template.compile (Stream.sole title version name).defaultTemplate
      = .ok ⟨lead, [⟨key, soleEnd⟩]⟩ := by
  obtain ⟨hFront, hLead⟩ := breakAt?_pair_eq_some_iff.mp hBreak
  have hKey : IsKey key := by
    have hClose := not_close_infix_soleFront hName.1
    have hLast := getLast?_soleFront hName.2
    rw [hFront] at hClose hLast
    refine ⟨fun hIn => hClose (hIn.trans (List.suffix_append ..).isInfix), fun hEnd => ?_⟩
    rw [List.getLast?_append, hEnd, Option.some_or] at hLast
    exact hLast rfl
  have hText : (Stream.sole title version name).defaultTemplate
      = lead ++ placeholder key ++ soleEnd := by
    rw [defaultTemplate_sole, unquote_soleObject hName.1, hFront]
    simp only [placeholder, openToken, List.append_assoc]
  have hEnd : scan soleEnd = .plain := by decide
  rw [hText, Template.compile,
    Template.compileFrom_of_hole (scan_eq_hole_iff.mpr ⟨rfl, hLead, hKey⟩),
    Template.compileFrom_of_plain hEnd]
  rfl

/-- If no token opens in the name, the first one is that of the placeholder, and the key is the name
as JSON writes it. -/
theorem breakAt?_soleFront (h : ¬ openToken <:+: name) :
    breakAt? openToken (soleFront name)
      = some (soleStart ++ Json.writeText name ++ [':'], Json.escape name) := by
  have hName : ¬ openToken <:+: Json.escape name := fun hIn => h (open_infix_escape.mp hIn)
  have hStart : ¬ openToken <:+: soleStart ++ Json.writeText name := by
    have hParts : soleStart ++ Json.writeText name
        = soleStart ++ ['"'] ++ (Json.escape name ++ ['"'] ++ []) := by
      simp [Json.writeText]
    rw [hParts, openToken, pair_infix_around (by decide) (by decide),
      pair_infix_around (by decide) (by decide)]
    rintro (hIn | hIn | hIn)
    · exact tokenless_soleStart.1 hIn
    · exact hName hIn
    · revert hIn
      decide
  have hLead : IsLead (soleStart ++ Json.writeText name ++ [':']) := by
    refine ⟨?_, by rw [List.getLast?_concat]; decide⟩
    rw [openToken, pair_infix_append]
    rintro (hIn | hIn | ⟨-, hHead⟩)
    · exact hStart hIn
    · revert hIn
      decide
    · revert hHead
      decide
  have hFirst : replaceAll quotedOpen openToken (soleStart ++ Json.writeText name)
      = soleStart ++ Json.writeText name := by
    refine replaceAll_of_not_infix ?_
    exact not_quotedOpen_infix hStart
  have hSecond : replaceAll quotedOpen openToken (Json.escape name) = Json.escape name := by
    refine replaceAll_of_not_infix ?_
    exact not_quotedOpen_infix hName
  refine breakAt?_pair_eq_some_iff.mpr ⟨?_, hLead⟩
  rw [soleFront_eq, hFirst, hSecond]
  simp [openToken]

/-- A name that is found as the key holds no opening token: the key would have more opening braces
than the name. -/
theorem not_open_of_found {lead : Text}
    (hBreak : breakAt? openToken (soleFront name) = some (lead, name)) :
    ¬ openToken <:+: name := by
  intro hOpen
  let first := replaceAll quotedOpen openToken (soleStart ++ Json.writeText name)
  let second := replaceAll quotedOpen openToken (Json.escape name)
  -- the first opening token is in the name's first place already
  have hFirst : openToken <:+: first := by
    refine (replaced_replaceAll (by decide) _).new_stays ?_
    have hWritten : Json.escape name <:+: soleStart ++ Json.writeText name :=
      ⟨soleStart ++ ['"'], ['"'], by simp [Json.writeText]⟩
    exact (open_infix_escape.mpr hOpen).trans hWritten
  obtain ⟨⟨lead', behind⟩, hFound⟩ := Option.ne_none_iff_exists'.mp
    fun hNone => breakAt?_eq_none_iff.mp hNone hFirst
  obtain ⟨hParts, hLead⟩ := breakAt?_pair_eq_some_iff.mp hFound
  have hWhole : breakAt? openToken (soleFront name)
      = some (lead', behind ++ ':' :: (openToken ++ second)) := by
    refine breakAt?_pair_eq_some_iff.mpr ⟨?_, hLead⟩
    rw [soleFront_eq]
    show first ++ _ = _
    rw [hParts]
    simp [second]
  have hKey : name = behind ++ ':' :: (openToken ++ second) := by
    rw [hBreak, Option.some.injEq, Prod.mk.injEq] at hWhole
    exact hWhole.2
  have hSecond : second.count '{' = name.count '{' := by
    rw [(replaced_replaceAll (by decide) _).count_eq (by decide)]
    exact Json.count_escape (by decide) (by decide) name
  have hCount := congrArg (List.count '{') hKey
  rw [List.count_append, List.count_cons, List.count_append, hSecond] at hCount
  have hToken : openToken.count '{' = 2 := rfl
  omega

end Sole

/-- **The check of names is exact.** A name, taken as the only attribute of a stream, comes back as
the one key of the stream's default template if and only if the check lets it pass. -/
theorem compile_sole_iff_isPlaceholderSafe (title version : Value) (name : Text) :
    (∃ t, Template.compile (Stream.sole title version name).defaultTemplate = .ok t
      ∧ t.keys = [name]) ↔ isPlaceholderSafe name = true := by
  obtain ⟨lead, key, hBreak⟩ := exists_breakAt?_soleFront name
  rw [isPlaceholderSafe_iff, ← Json.escape_eq_self_iff]
  constructor
  · rintro ⟨t, hCompile, hKeys⟩
    have hCanonical := Template.canonical_of_compile hCompile
    have hMem : name ∈ t.keys := by
      rw [hKeys]
      exact List.mem_singleton_self name
    have hName : IsKey name :=
      ⟨hCanonical.keys_unclosed name hMem, hCanonical.keys_end name hMem⟩
    obtain rfl : key = name := by
      rw [compile_soleTemplate hName hBreak] at hCompile
      cases hCompile
      exact List.singleton_inj.mp hKeys
    have hOpen := not_open_of_found hBreak
    rw [breakAt?_soleFront hOpen, Option.some.injEq, Prod.mk.injEq] at hBreak
    exact ⟨hOpen, hName, hBreak.2⟩
  · rintro ⟨hOpen, hName, hEscape⟩
    refine ⟨_, compile_soleTemplate hName (breakAt?_soleFront hOpen) title version, ?_⟩
    exact congrArg ([·]) hEscape

end EventLoom
