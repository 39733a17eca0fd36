import EventLoom.Proofs.Tokens
import EventLoom.Template.Compile

/-!
# Canonical literals and keys

A text can be written out of literals and keys in more than one way: the brace in front of `{{` may
be the end of the literal or, if the literal gives it up, the beginning of the key. Compiling
always takes the first opening token, and behind it the first closing one, so of all the ways to
write a text it returns one particular: the one whose literals and keys are `Canonical`. This
module shows that compiling and writing out are each other's inverses between the texts that
compile and the canonical lists.

## Results

* `scan_eq_plain_iff`, `scan_eq_unclosed_iff`, `scan_eq_hole_iff` — what there is to say of a text
  up to the end of its first placeholder, without following the scan.
* `canonical_of_compile` — what is compiled is canonical.
* `compile_interleave` — canonical literals and keys, written out, compile to themselves.
* `compile_interleave_bijection` — both together, and that no two texts compile to one template.
-/

namespace EventLoom

open Text

-- ---------------------------------------------------------------------------
-- The first placeholder
-- ---------------------------------------------------------------------------

theorem openToken_ne_nil : openToken ≠ [] := List.cons_ne_nil _ _

/-- A placeholder is as long as its key and both tokens. -/
theorem length_placeholder (key : Text) : (placeholder key).length = key.length + 4 := by
  simp only [placeholder, openToken, closeToken, List.length_append, List.length_cons,
    List.length_nil]
  omega

/-- The text can stand in front of a placeholder, as the literal up to its opening token. -/
def IsLead (t : Text) : Prop := ¬ openToken <:+: t ∧ t.getLast? ≠ some '{'

/-- The text can be the key of a placeholder, the text up to its closing token. -/
def IsKey (t : Text) : Prop := ¬ closeToken <:+: t ∧ t.getLast? ≠ some '}'

theorem scan_eq_plain_iff {t : Text} : scan t = .plain ↔ ¬ openToken <:+: t := by
  rw [← breakAt?_eq_none_iff, scan]
  split
  · rename_i hOpen
    simp [hOpen]
  · rename_i hOpen
    rw [hOpen]
    split <;> simp

theorem scan_eq_unclosed_iff {t before : Text} :
    scan t = .unclosed before ↔
      ∃ rest, t = before ++ openToken ++ rest ∧ IsLead before ∧ ¬ closeToken <:+: rest := by
  rw [scan]
  constructor
  · intro h
    split at h
    · cases h
    · rename_i rest hOpen
      split at h
      · rename_i hClose
        cases h
        obtain ⟨hText, hLead⟩ := breakAt?_pair_eq_some_iff.mp hOpen
        exact ⟨rest, hText, hLead, breakAt?_eq_none_iff.mp hClose⟩
      · cases h
  · rintro ⟨rest, hText, hLead, hClose⟩
    have hOpen : breakAt? openToken t = some (before, rest) :=
      breakAt?_pair_eq_some_iff.mpr ⟨hText, hLead⟩
    simp only [hOpen, breakAt?_eq_none_iff.mpr hClose]

theorem scan_eq_hole_iff {t before key after : Text} :
    scan t = .hole before key after ↔
      t = before ++ placeholder key ++ after ∧ IsLead before ∧ IsKey key := by
  rw [scan]
  constructor
  · intro h
    split at h
    · cases h
    · rename_i rest hOpen
      split at h
      · cases h
      · rename_i hClose
        cases h
        obtain ⟨hText, hLead⟩ := breakAt?_pair_eq_some_iff.mp hOpen
        obtain ⟨hRest, hKey⟩ := breakAt?_pair_eq_some_iff.mp hClose
        refine ⟨?_, hLead, hKey⟩
        rw [hText, hRest]
        simp only [placeholder, openToken, closeToken, List.append_assoc]
  · rintro ⟨hText, hLead, hKey⟩
    have hOpen : breakAt? openToken t = some (before, key ++ closeToken ++ after) := by
      refine breakAt?_pair_eq_some_iff.mpr ⟨?_, hLead⟩
      rw [hText]
      simp only [placeholder, openToken, List.append_assoc]
    have hClose : breakAt? closeToken (key ++ closeToken ++ after) = some (key, after) :=
      breakAt?_pair_eq_some_iff.mpr ⟨rfl, hKey⟩
    simp only [hOpen, hClose]

theorem breakAt?_of_unclosed {t before : Text} (h : scan t = .unclosed before) :
    ∃ rest, breakAt? openToken t = some (before, rest) ∧ ¬ closeToken <:+: rest := by
  obtain ⟨rest, hText, hLead, hClose⟩ := scan_eq_unclosed_iff.mp h
  exact ⟨rest, breakAt?_pair_eq_some_iff.mpr ⟨hText, hLead⟩, hClose⟩

theorem breakAt?_of_hole {t before key after : Text} (h : scan t = .hole before key after) :
    breakAt? openToken t = some (before, key ++ closeToken ++ after) := by
  obtain ⟨hText, hLead, -⟩ := scan_eq_hole_iff.mp h
  refine breakAt?_pair_eq_some_iff.mpr ⟨?_, hLead⟩
  rw [hText]
  simp only [placeholder, openToken, List.append_assoc]

-- ---------------------------------------------------------------------------
-- One placeholder more
-- ---------------------------------------------------------------------------

namespace Template

/-- The template with one more literal and placeholder in front. -/
def prepend (before key : Text) (t : Template) : Template :=
  ⟨before, ⟨key, t.lead⟩ :: t.holes⟩

@[simp] theorem literals_prepend (before key : Text) (t : Template) :
    (prepend before key t).literals = before :: t.literals := rfl

@[simp] theorem keys_prepend (before key : Text) (t : Template) :
    (prepend before key t).keys = key :: t.keys := rfl

/-- Templates are equal when their literals and keys are. -/
theorem ext_of_literals {t u : Template} (hLiterals : t.literals = u.literals)
    (hKeys : t.keys = u.keys) : t = u := by
  obtain ⟨lead, holes⟩ := t
  obtain ⟨lead', holes'⟩ := u
  simp only [TemplateOf.literals, List.cons.injEq] at hLiterals
  obtain ⟨rfl, hTails⟩ := hLiterals
  simp only [TemplateOf.keys] at hKeys
  have hHoles : holes = holes' := by
    induction holes generalizing holes' with
    | nil => simpa using hKeys
    | cons hole rest ih =>
      cases holes' with
      | nil => simp at hKeys
      | cons hole' rest' =>
        simp only [List.map_cons, List.cons.injEq] at hKeys hTails
        obtain ⟨key, tail⟩ := hole
        obtain ⟨key', tail'⟩ := hole'
        rw [ih rest' hTails.2 hKeys.2]
        simp_all
  rw [hHoles]

theorem compileFrom_of_plain {offset : Nat} {t : Text} (h : scan t = .plain) :
    compileFrom offset t = .ok ⟨t, []⟩ := by
  rw [compileFrom]
  split <;> simp_all

theorem compileFrom_of_unclosed {offset : Nat} {t before : Text} (h : scan t = .unclosed before) :
    compileFrom offset t = .error (.malformedTemplate (offset + before.length)) := by
  rw [compileFrom]
  split <;> simp_all

theorem compileFrom_of_hole {offset : Nat} {t before key after : Text}
    (h : scan t = .hole before key after) :
    compileFrom offset t =
      (compileFrom (offset + before.length + (placeholder key).length) after).map
        (prepend before key) := by
  rw [compileFrom]
  split
  · simp_all
  · simp_all
  · rename_i hScan
    rw [h] at hScan
    cases hScan
    cases compileFrom (offset + before.length + (placeholder key).length) after <;> rfl

end Template

-- ---------------------------------------------------------------------------
-- Canonical lists
-- ---------------------------------------------------------------------------

/-- The text that literals and keys make: each key as a placeholder between two literals. -/
def interleave : List Text → List Text → Text
  | [], _ => []
  | literal :: _, [] => literal
  | literal :: literals, key :: keys => literal ++ placeholder key ++ interleave literals keys

/-- The literals and keys that compiling can return: no literal holds the opening token or, unless
it is the last one, ends as that begins; no key holds the closing token or ends as that begins. -/
structure Canonical (literals keys : List Text) : Prop where
  length_eq : literals.length = keys.length + 1
  literals_unopened : ∀ literal ∈ literals, ¬ openToken <:+: literal
  literals_end : ∀ literal ∈ literals.dropLast, literal.getLast? ≠ some '{'
  keys_unclosed : ∀ key ∈ keys, ¬ closeToken <:+: key
  keys_end : ∀ key ∈ keys, key.getLast? ≠ some '}'

theorem canonical_singleton_iff {literal : Text} :
    Canonical [literal] [] ↔ ¬ openToken <:+: literal := by
  constructor
  · intro h
    exact h.literals_unopened literal (by simp)
  · intro h
    exact ⟨rfl, by simpa using h, by simp, by simp, by simp⟩

theorem canonical_cons_iff {literal key : Text} {literals keys : List Text} :
    Canonical (literal :: literals) (key :: keys) ↔
      IsLead literal ∧ IsKey key ∧ Canonical literals keys := by
  constructor
  · intro h
    have hLength : literals.length = keys.length + 1 := by
      have := h.length_eq
      simp only [List.length_cons] at this
      omega
    have hNe : literals ≠ [] := List.ne_nil_of_length_eq_add_one hLength
    have hEnd := h.literals_end
    rw [List.dropLast_cons_of_ne_nil hNe] at hEnd
    refine ⟨⟨h.literals_unopened _ (List.mem_cons_self ..), hEnd _ (List.mem_cons_self ..)⟩,
      ⟨h.keys_unclosed _ (List.mem_cons_self ..), h.keys_end _ (List.mem_cons_self ..)⟩,
      hLength, ?_, ?_, ?_, ?_⟩
    · exact fun l hl => h.literals_unopened l (List.mem_cons_of_mem _ hl)
    · exact fun l hl => hEnd l (List.mem_cons_of_mem _ hl)
    · exact fun k hk => h.keys_unclosed k (List.mem_cons_of_mem _ hk)
    · exact fun k hk => h.keys_end k (List.mem_cons_of_mem _ hk)
  · rintro ⟨hLead, hKey, h⟩
    have hNe : literals ≠ [] := List.ne_nil_of_length_eq_add_one h.length_eq
    refine ⟨?_, ?_, ?_, ?_, ?_⟩
    · simp only [List.length_cons, h.length_eq]
    · exact List.forall_mem_cons.mpr ⟨hLead.1, h.literals_unopened⟩
    · rw [List.dropLast_cons_of_ne_nil hNe]
      exact List.forall_mem_cons.mpr ⟨hLead.2, h.literals_end⟩
    · exact List.forall_mem_cons.mpr ⟨hKey.1, h.keys_unclosed⟩
    · exact List.forall_mem_cons.mpr ⟨hKey.2, h.keys_end⟩

namespace Template

theorem interleave_literals_keys (t : Template) : interleave t.literals t.keys = t.written := by
  obtain ⟨lead, holes⟩ := t
  induction holes generalizing lead with
  | nil => simp [TemplateOf.literals, TemplateOf.keys, interleave, written]
  | cons hole rest ih =>
    have hRest := ih hole.tail
    simp only [TemplateOf.literals, TemplateOf.keys, List.map_cons, written] at hRest ⊢
    rw [interleave, hRest]
    simp only [List.flatMap_cons, List.append_assoc]

theorem canonical_of_compileFrom {offset : Nat} {t : Text} {result : Template}
    (h : compileFrom offset t = .ok result) : Canonical result.literals result.keys := by
  fun_induction compileFrom offset t generalizing result with
  | case1 offset t hScan =>
    cases h
    exact canonical_singleton_iff.mpr (scan_eq_plain_iff.mp hScan)
  | case2 => cases h
  | case3 => cases h
  | case4 offset t before key after hScan hLength rest hRest ih =>
    cases h
    obtain ⟨-, hLead, hKey⟩ := scan_eq_hole_iff.mp hScan
    show Canonical (prepend before key rest).literals (prepend before key rest).keys
    rw [literals_prepend, keys_prepend, canonical_cons_iff]
    exact ⟨hLead, hKey, ih hRest⟩

/-- What is compiled is canonical. -/
theorem canonical_of_compile {t : Text} {result : Template} (h : compile t = .ok result) :
    Canonical result.literals result.keys :=
  canonical_of_compileFrom h

/-- Canonical literals and keys, written out, are found again, wherever the text begins. -/
theorem compileFrom_interleave {literals keys : List Text} (h : Canonical literals keys)
    (offset : Nat) :
    ∃ t, compileFrom offset (interleave literals keys) = .ok t ∧ t.literals = literals
      ∧ t.keys = keys := by
  induction keys generalizing literals offset with
  | nil =>
    obtain ⟨literal, rfl⟩ := List.length_eq_one_iff.mp h.length_eq
    have hScan := scan_eq_plain_iff.mpr (canonical_singleton_iff.mp h)
    exact ⟨⟨literal, []⟩, compileFrom_of_plain hScan, rfl, rfl⟩
  | cons key keys ih =>
    obtain ⟨literal, literals, rfl⟩ :=
      List.exists_cons_of_ne_nil (List.ne_nil_of_length_eq_add_one h.length_eq)
    obtain ⟨hLead, hKey, hRest⟩ := canonical_cons_iff.mp h
    have hScan : scan (interleave (literal :: literals) (key :: keys))
        = .hole literal key (interleave literals keys) :=
      scan_eq_hole_iff.mpr ⟨rfl, hLead, hKey⟩
    obtain ⟨t, hCompile, hLiterals, hKeys⟩ :=
      ih hRest (offset + literal.length + (placeholder key).length)
    refine ⟨prepend literal key t, ?_, ?_, ?_⟩
    · rw [compileFrom_of_hole hScan, hCompile]
      rfl
    · rw [literals_prepend, hLiterals]
    · rw [keys_prepend, hKeys]

theorem compile_interleave {literals keys : List Text} (h : Canonical literals keys) :
    ∃ t, compile (interleave literals keys) = .ok t ∧ t.literals = literals ∧ t.keys = keys :=
  compileFrom_interleave h 0

/-- A template with canonical literals and keys is found again in its written form. -/
theorem compile_written {t : Template} (h : Canonical t.literals t.keys) :
    compile t.written = .ok t := by
  obtain ⟨u, hCompile, hLiterals, hKeys⟩ := compile_interleave h
  rw [← interleave_literals_keys, hCompile, ext_of_literals hLiterals hKeys]

/-- **Compiling and writing out are inverse to each other.** Literals and keys of a compiled text
give the text back and are canonical; canonical literals and keys, written out, compile to
themselves; and a template is compiled from one text only. -/
theorem compile_interleave_bijection :
    (∀ raw t, compile raw = .ok t →
      interleave t.literals t.keys = raw ∧ Canonical t.literals t.keys)
    ∧ (∀ literals keys, Canonical literals keys →
      ∃ t, compile (interleave literals keys) = .ok t ∧ t.literals = literals ∧ t.keys = keys)
    ∧ ∀ raw raw' t, compile raw = .ok t → compile raw' = .ok t → raw = raw' := by
  refine ⟨?_, ?_, ?_⟩
  · intro raw t h
    rw [interleave_literals_keys, written_compile h]
    exact ⟨rfl, canonical_of_compile h⟩
  · intro literals keys h
    exact compile_interleave h
  · intro raw raw' t h h'
    rw [← written_compile h, ← written_compile h']

/-- A run of braces opens a placeholder with its first two, and the third belongs to the key. -/
theorem compile_brace_run :
    ∃ t, compile "\x7b\x7b\x7ba\x7d\x7d\x7d\x7b".toList = .ok t
      ∧ t.literals = [[], ['}', '{']] ∧ t.keys = [['{', 'a']] := by
  obtain ⟨-, hFound, -⟩ := compile_interleave_bijection
  exact hFound [[], ['}', '{']] [['{', 'a']] ⟨rfl, by decide, by decide, by decide, by decide⟩

end Template

end EventLoom
