import EventLoom.Proofs.Canonical
import EventLoom.Stream.DefaultTemplate

/-!
# Taking the quotes off placeholders

A template that is made by writing JSON has its placeholders inside of JSON texts, between two
double quotes. The quotes are taken off by two replacements that go through the whole text and know
nothing of JSON: `"{{` becomes `{{`, and then `}}"` becomes `}}`. They do what they are meant to if
no such token comes about anywhere else, neither inside of a literal or a key nor across a seam
between them.

A text is seen here as a list of runs, each of which is a literal with the placeholder behind it,
and the literal behind the last of them. Which literals and keys can be told apart from the quoted
placeholders is a condition on every run by itself (`Run.Quotable`); no condition joins one run to
the next, since the double quotes stand between them.

## Results

* `canonical_ofRuns` — which runs are found again when their text is compiled.
* `replaceAll_quotedOpen`, `replaceAll_quotedClose` — what each of the two replacements does.
* `unquotePlaceholders_spell` — together they take the quotes off every placeholder, and nothing
  else away.
-/

namespace EventLoom

open Text

-- ---------------------------------------------------------------------------
-- Runs
-- ---------------------------------------------------------------------------

/-- A literal with the placeholder behind it. -/
structure Run where
  lead : Text
  key : Text

/-- The text of some runs and a last literal, with `f` saying how a placeholder is written. -/
def spell (f : Text → Text) (runs : List Run) (last : Text) : Text :=
  runs.flatMap (fun run => run.lead ++ f run.key) ++ last

theorem spell_nil (f : Text → Text) (last : Text) : spell f [] last = last := rfl

theorem spell_cons (f : Text → Text) (run : Run) (runs : List Run) (last : Text) :
    spell f (run :: runs) last = run.lead ++ f run.key ++ spell f runs last := by
  rw [spell, spell, List.flatMap_cons, List.append_assoc]

theorem spell_append (f : Text → Text) (runs runs' : List Run) (last : Text) :
    spell f (runs ++ runs') last = spell f runs (spell f runs' last) := by
  rw [spell, spell, spell, List.flatMap_append, List.append_assoc]

namespace Template

/-- The text of the template, with `f` saying how a placeholder is written. -/
def filled (f : Text → Text) (t : Template) : Text :=
  t.lead ++ t.holes.flatMap fun hole => f hole.key ++ hole.tail

theorem written_eq_filled (t : Template) : t.written = t.filled placeholder := rfl

theorem filled_prepend (f : Text → Text) (before key : Text) (t : Template) :
    (prepend before key t).filled f = before ++ f key ++ t.filled f := by
  simp only [filled, prepend, List.flatMap_cons, List.append_assoc]

/-- The template of some runs and a last literal. -/
def ofRuns (runs : List Run) (last : Text) : Template :=
  runs.foldr (fun run t => prepend run.lead run.key t) ⟨last, []⟩

theorem filled_ofRuns (f : Text → Text) (runs : List Run) (last : Text) :
    (ofRuns runs last).filled f = spell f runs last := by
  induction runs with
  | nil => simp [ofRuns, filled, spell]
  | cons run rest ih =>
    rw [spell_cons, ← ih]
    exact filled_prepend f run.lead run.key (ofRuns rest last)

theorem keys_ofRuns (runs : List Run) (last : Text) :
    (ofRuns runs last).keys = runs.map Run.key := by
  induction runs with
  | nil => rfl
  | cons run rest ih =>
    rw [List.map_cons, ← ih]
    exact keys_prepend run.lead run.key (ofRuns rest last)

/-- Runs are found again if each of their literals can stand in front of a placeholder and each of
their keys can be one. -/
theorem canonical_ofRuns {runs : List Run} {last : Text}
    (hRuns : ∀ run ∈ runs, IsLead run.lead ∧ IsKey run.key) (hLast : ¬ openToken <:+: last) :
    Canonical (ofRuns runs last).literals (ofRuns runs last).keys := by
  induction runs with
  | nil => exact canonical_singleton_iff.mpr hLast
  | cons run rest ih =>
    obtain ⟨⟨hLead, hKey⟩, hRest⟩ := List.forall_mem_cons.mp hRuns
    show Canonical (prepend run.lead run.key (ofRuns rest last)).literals
      (prepend run.lead run.key (ofRuns rest last)).keys
    rw [literals_prepend, keys_prepend, canonical_cons_iff]
    exact ⟨hLead, hKey, ih hRest⟩

end Template

-- ---------------------------------------------------------------------------
-- Quoted placeholders
-- ---------------------------------------------------------------------------

/-- A placeholder as the JSON text that it is written as at first. -/
def quotedPlaceholder (key : Text) : Text := '"' :: placeholder key ++ ['"']

/-- A placeholder that has lost the first of its quotes. -/
def halfQuotedPlaceholder (key : Text) : Text := placeholder key ++ ['"']

/-- The opening token with the quote before it. -/
def quotedOpen : Text := '"' :: openToken

/-- The closing token with the quote behind it. -/
def quotedClose : Text := closeToken ++ ['"']

theorem unbordered_quotedOpen : Unbordered quotedOpen :=
  unbordered_of_head_not_mem (by decide)

theorem unbordered_quotedClose : Unbordered quotedClose :=
  unbordered_of_last_not_mem (by decide)

/-- The literal holds nothing that the replacements would take for a quoted placeholder, and the key
holds no quote. -/
structure Run.Quotable (run : Run) : Prop where
  lead_unopened : ¬ openToken <:+: run.lead
  lead_unclosed : ¬ quotedClose <:+: run.lead
  key_unquoted : '"' ∉ run.key

-- ---------------------------------------------------------------------------
-- The first replacement
-- ---------------------------------------------------------------------------

theorem not_quotedOpen_infix {t : Text} (h : ¬ openToken <:+: t) : ¬ quotedOpen <:+: t := by
  intro hQuoted
  exact h ((List.infix_cons (List.infix_refl openToken)).trans hQuoted)

/-- The end of a placeholder, up to the quote behind it, does not bring about an opening one. -/
theorem not_quotedOpen_infix_behind_key {key t : Text} (hKey : '"' ∉ key)
    (h : ¬ openToken <:+: t) : ¬ quotedOpen <:+: key ++ quotedClose ++ t := by
  intro hQuoted
  have hSplit : key ++ quotedClose ++ t = (key ++ closeToken) ++ '"' :: t := by
    simp [quotedClose]
  rw [hSplit] at hQuoted
  have hQuote : '"' ∉ key ++ closeToken := by
    rw [List.mem_append]
    rintro (hIn | hIn)
    · exact hKey hIn
    · revert hIn
      decide
  have hRest := infix_of_infix_append_left hQuote hQuoted
  rw [List.infix_cons_iff, List.cons_prefix_cons] at hRest
  rcases hRest with ⟨-, hPrefix⟩ | hInfix
  · exact h hPrefix.isInfix
  · exact not_quotedOpen_infix h hInfix

/-- Behind a text that makes no quoted opening token with what follows it, the first replacement
takes off the first quote of every placeholder. -/
theorem replaceAll_quotedOpen_behind {runs : List Run} {last : Text} (before : Text)
    (hRuns : ∀ run ∈ runs, run.Quotable) (hLast : ¬ openToken <:+: last)
    (hBefore : ∀ t, ¬ openToken <:+: t → ¬ quotedOpen <:+: before ++ t) :
    replaceAll quotedOpen openToken (before ++ spell quotedPlaceholder runs last)
      = before ++ spell halfQuotedPlaceholder runs last := by
  induction runs generalizing before with
  | nil =>
    rw [spell_nil, spell_nil]
    exact replaceAll_of_not_infix (hBefore last hLast)
  | cons run rest ih =>
    obtain ⟨hRun, hRest⟩ := List.forall_mem_cons.mp hRuns
    -- what is left of this placeholder stands before the next run
    have hNext := ih (run.key ++ quotedClose) hRest fun t ht =>
      not_quotedOpen_infix_behind_key hRun.key_unquoted ht
    calc replaceAll quotedOpen openToken (before ++ spell quotedPlaceholder (run :: rest) last)
        = replaceAll quotedOpen openToken ((before ++ run.lead) ++ quotedOpen
            ++ (run.key ++ quotedClose ++ spell quotedPlaceholder rest last)) := by
          rw [spell_cons]
          simp [quotedPlaceholder, placeholder, quotedOpen, quotedClose]
      _ = (before ++ run.lead) ++ openToken
            ++ (run.key ++ quotedClose ++ spell halfQuotedPlaceholder rest last) := by
          rw [replaceAll_append_token unbordered_quotedOpen (by simp [quotedOpen])
            (hBefore _ hRun.lead_unopened), hNext]
      _ = before ++ spell halfQuotedPlaceholder (run :: rest) last := by
          rw [spell_cons]
          simp [halfQuotedPlaceholder, placeholder, quotedClose]

/-- **The first replacement** takes off the first quote of every placeholder. -/
theorem replaceAll_quotedOpen {runs : List Run} {last : Text}
    (hRuns : ∀ run ∈ runs, run.Quotable) (hLast : ¬ openToken <:+: last) :
    replaceAll quotedOpen openToken (spell quotedPlaceholder runs last)
      = spell halfQuotedPlaceholder runs last :=
  replaceAll_quotedOpen_behind [] hRuns hLast fun _ ht => not_quotedOpen_infix ht

-- ---------------------------------------------------------------------------
-- The second replacement
-- ---------------------------------------------------------------------------

/-- The beginning of a placeholder does not bring about a closing one. -/
theorem not_quotedClose_infix_before_key {lead key : Text} (hLead : ¬ quotedClose <:+: lead)
    (hKey : '"' ∉ key) : ¬ quotedClose <:+: lead ++ (openToken ++ key) := by
  intro hQuoted
  apply hLead
  refine infix_of_infix_append_right ?_ hQuoted
  rw [List.mem_append]
  rintro (hIn | hIn)
  · revert hIn
    decide
  · exact hKey hIn

/-- **The second replacement** takes off the other quote of every placeholder. -/
theorem replaceAll_quotedClose {runs : List Run} {last : Text}
    (hRuns : ∀ run ∈ runs, run.Quotable) (hLast : ¬ quotedClose <:+: last) :
    replaceAll quotedClose closeToken (spell halfQuotedPlaceholder runs last)
      = spell placeholder runs last := by
  induction runs with
  | nil =>
    rw [spell_nil, spell_nil]
    exact replaceAll_of_not_infix hLast
  | cons run rest ih =>
    obtain ⟨hRun, hRest⟩ := List.forall_mem_cons.mp hRuns
    have hFree := not_quotedClose_infix_before_key hRun.lead_unclosed hRun.key_unquoted
    calc replaceAll quotedClose closeToken (spell halfQuotedPlaceholder (run :: rest) last)
        = replaceAll quotedClose closeToken ((run.lead ++ (openToken ++ run.key)) ++ quotedClose
            ++ spell halfQuotedPlaceholder rest last) := by
          rw [spell_cons]
          simp [halfQuotedPlaceholder, placeholder, quotedClose]
      _ = (run.lead ++ (openToken ++ run.key)) ++ closeToken ++ spell placeholder rest last := by
          rw [replaceAll_append_token unbordered_quotedClose (by simp [quotedClose]) hFree,
            ih hRest]
      _ = spell placeholder (run :: rest) last := by
          rw [spell_cons]
          simp [placeholder]

/-- **Both replacements together** take the quotes off every placeholder and change nothing
else. -/
theorem unquotePlaceholders_spell {runs : List Run} {last : Text}
    (hRuns : ∀ run ∈ runs, run.Quotable) (hOpen : ¬ openToken <:+: last)
    (hClose : ¬ quotedClose <:+: last) :
    unquotePlaceholders (spell quotedPlaceholder runs last) = spell placeholder runs last := by
  rw [unquotePlaceholders, ← quotedOpen, ← quotedClose, replaceAll_quotedOpen hRuns hOpen,
    replaceAll_quotedClose hRuns hClose]

end EventLoom
