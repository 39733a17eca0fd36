import EventLoom.Proofs.ListSpellings

/-!
# Optional hints and their bases

A hint that admits that there is no value names the word `None` beside its base, with a bar between
the two, in either order and with any white space around the bar (`UnionSpelling`). Every spelling
is known to be optional, since for that the word alone is looked for: a text that stands for nothing
is read as no value. For all other texts the base decides, and to find it the word is taken out
together with the bar and one space between them.

A base that does not hold the word itself leaves only one place for it in the hint
(`eq_of_append_token`), so whether it is taken out depends on the gap between the word and the bar
alone. With one space there, what is left is the base with white space, and texts are read as by the
base. With any other gap nothing is taken out. Such a hint is not known as one for truth values or
numbers, and as one for lists only if it begins with its base; what it does not know it leaves as it
is. So the texts of these kinds come out differently, and those of all other hints do not.

## Results

* `eq_of_append_token` — a token stands only once between two texts without it.
* `behindBar_infix_iff`, `beforeBar_infix_iff` — when the word stands a space away from a bar.
* `baseHint_write_of_gap`, `baseHint_write_of_gap_ne` — the base of a spelling, by its gap.
* `decodeBase_eq_text_iff` — which hints leave every text as it is.
* `decode_write_by_gap` — what comes of a text under an optional hint.
-/

namespace EventLoom

open Text

-- ---------------------------------------------------------------------------
-- Texts around a token
-- ---------------------------------------------------------------------------

namespace Text

variable {token a b x y u v : Text}

/-- A token without borders can only be moved on behind itself. -/
theorem eq_nil_or_prefix_of_shift (hBorder : Unbordered token) (h : token ++ v = a ++ token ++ y) :
    a = [] ∨ token <+: a := by
  rw [List.append_assoc, List.append_eq_append_iff] at h
  rcases h with ⟨rest, rfl, -⟩ | ⟨back, hToken, hBack⟩
  · exact .inr (List.prefix_append ..)
  · by_cases hEnds : a = [] ∨ back = []
    · refine hEnds.imp_right fun hNone => ?_
      have hWhole : token = a := by rw [hToken, hNone, List.append_nil]
      exact hWhole ▸ List.prefix_rfl
    · -- what is left of the token behind `a` would begin the token as well
      rw [not_or] at hEnds
      have hShort : back.length ≤ token.length := by
        rw [hToken, List.length_append]
        omega
      have hPrefix : back <+: token :=
        List.prefix_of_prefix_length_le (hBack ▸ List.prefix_append back v)
          (List.prefix_append token y) hShort
      exact absurd hPrefix (hBorder a back hToken hEnds.1 hEnds.2)

/-- **A token stands only once** between two texts without it. -/
theorem eq_of_append_token (hBorder : Unbordered token) (hx : ¬ token <:+: x)
    (hy : ¬ token <:+: y) (h : u ++ token ++ v = x ++ token ++ y) : u = x ∧ v = y := by
  have hSame : u = x := by
    rw [List.append_assoc, List.append_assoc, List.append_eq_append_iff] at h
    rcases h with ⟨a, rfl, hBehind⟩ | ⟨a, rfl, hBehind⟩
    · rw [← List.append_assoc] at hBehind
      rcases eq_nil_or_prefix_of_shift hBorder hBehind with rfl | hPrefix
      · rw [List.append_nil]
      · exact absurd (hPrefix.isInfix.trans (List.suffix_append u a).isInfix) hx
    · rw [← List.append_assoc] at hBehind
      rcases eq_nil_or_prefix_of_shift hBorder hBehind with rfl | ⟨more, rfl⟩
      · rw [List.append_nil]
      · refine absurd ?_ hy
        rw [List.append_assoc, List.append_assoc, List.append_cancel_left_eq] at hBehind
        rw [hBehind, ← List.append_assoc]
        exact List.infix_append ..
  rw [hSame, List.append_assoc, List.append_assoc] at h
  exact ⟨hSame, List.append_cancel_left (List.append_cancel_left h)⟩

/-- A text of other characters cannot help a token to begin a text. -/
theorem prefix_of_prefix_append_of_disjoint (hb : ∀ c ∈ b, c ∉ token) (h : token <+: a ++ b) :
    token <+: a := by
  cases b with
  | nil => rwa [List.append_nil] at h
  | cons c rest => exact prefix_of_prefix_append_cons (hb c List.mem_cons_self) h

theorem trimBy_append_left {p : Char → Bool} {before : Text} (h : ∀ c ∈ before, p c = true)
    (t : Text) : trimBy p (before ++ t) = trimBy p t := by
  have hAround := trimBy_append h (List.forall_mem_nil _) t
  rwa [List.append_nil] at hAround

theorem trimBy_append_right {p : Char → Bool} {after : Text} (h : ∀ c ∈ after, p c = true)
    (t : Text) : trimBy p (t ++ after) = trimBy p t :=
  trimBy_append (List.forall_mem_nil _) h t

theorem mem_trimBy {p : Char → Bool} {c : Char} (hc : p c = false) {t : Text} (h : c ∈ t) :
    c ∈ trimBy p t := by
  obtain ⟨before, after, hWhole, hBefore, hAfter⟩ := exists_eq_trimBy p t
  rw [hWhole, List.mem_append, List.mem_append] at h
  rcases h with (hMem | hMem) | hMem
  · exact absurd (hBefore c hMem) (by simp [hc])
  · exact hMem
  · exact absurd (hAfter c hMem) (by simp [hc])

end Text

namespace Settings

-- ---------------------------------------------------------------------------
-- The word for nothing
-- ---------------------------------------------------------------------------

/-- The alternative of nothing, as hints name it. -/
def noneWord : Text := ['N', 'o', 'n', 'e']

/-- The word behind a bar, as it is taken out. -/
def behindBar : Text := ['|', ' '] ++ noneWord

/-- The word before a bar, as it is taken out. -/
def beforeBar : Text := noneWord ++ [' ', '|']

theorem baseHint_eq (hint : Text) :
    baseHint hint = strip (replaceAll beforeBar [] (replaceAll behindBar [] hint)) := rfl

theorem isOptional_eq_false_iff {hint : Text} :
    isOptional hint = false ↔ ¬ noneWord <:+: hint := hasToken_eq_false_iff

theorem unbordered_noneWord : Unbordered noneWord := unbordered_of_head_not_mem (by decide)

theorem unbordered_behindBar : Unbordered behindBar := unbordered_of_head_not_mem (by decide)

theorem unbordered_beforeBar : Unbordered beforeBar := unbordered_of_head_not_mem (by decide)

section Around

variable {x y : Text} (hx : ¬ noneWord <:+: x) (hy : ¬ noneWord <:+: y)
include hx hy

/-- The word stands a space behind a bar if what is before it ends so. -/
theorem behindBar_infix_iff : behindBar <:+: x ++ noneWord ++ y ↔ ['|', ' '] <:+ x := by
  constructor
  · rintro ⟨u, v, h⟩
    rw [behindBar, ← List.append_assoc] at h
    exact ⟨u, (eq_of_append_token unbordered_noneWord hx hy h).1⟩
  · rintro ⟨u, rfl⟩
    exact ⟨u, y, by rw [behindBar, ← List.append_assoc]⟩

/-- The word stands a space before a bar if what is behind it begins so. -/
theorem beforeBar_infix_iff : beforeBar <:+: x ++ noneWord ++ y ↔ [' ', '|'] <+: y := by
  constructor
  · rintro ⟨u, v, h⟩
    rw [beforeBar, ← List.append_assoc, List.append_assoc] at h
    exact ⟨v, (eq_of_append_token unbordered_noneWord hx hy h).2⟩
  · rintro ⟨v, rfl⟩
    exact ⟨x, v, by rw [beforeBar, ← List.append_assoc, List.append_assoc]⟩

end Around

-- ---------------------------------------------------------------------------
-- Spellings
-- ---------------------------------------------------------------------------

/-- A way to write a base and the word with a bar between them: what stands before and behind the
bar. -/
inductive UnionSpelling where
  /-- The word comes last. -/
  | last (before after : Text)
  /-- The word comes first. -/
  | first (before after : Text)

namespace UnionSpelling

/-- The hint that is written. -/
def write : UnionSpelling → Text → Text
  | .last before after, base => base ++ (before ++ '|' :: after) ++ noneWord
  | .first before after, base => noneWord ++ (before ++ '|' :: after ++ base)

/-- What stands between the bar and the word. -/
def gap : UnionSpelling → Text
  | .last _ after => after
  | .first before _ => before

/-- There is nothing but white space around the bar. -/
def IsBlank : UnionSpelling → Prop
  | .last before after | .first before after => isBlank before = true ∧ isBlank after = true

end UnionSpelling

/-- A bar in white space has no character of the word. -/
theorem not_mem_bar {before after : Text} (hBefore : isBlank before = true)
    (hAfter : isBlank after = true) {c : Char} (hc : c ∈ noneWord) :
    c ∉ before ++ '|' :: after := by
  have hPlain : ¬ isBlankChar c = true :=
    List.any_eq_false.mp (show noneWord.any isBlankChar = false by decide) c hc
  have hBar : c ≠ '|' := by
    rintro rfl
    exact absurd hc (by decide)
  rw [List.mem_append, List.mem_cons, not_or, not_or]
  exact ⟨not_mem_of_isBlank hPlain hBefore, hBar, not_mem_of_isBlank hPlain hAfter⟩

theorem space_bar_prefix_iff {before rest : Text} (h : '|' ∉ before) :
    [' ', '|'] <+: before ++ '|' :: rest ↔ before = [' '] := by
  constructor
  · intro hPrefix
    match before with
    | [] => simp at hPrefix
    | [c] =>
      rw [List.cons_append, List.cons_prefix_cons] at hPrefix
      rw [hPrefix.1]
    | c :: d :: more =>
      rw [List.cons_append, List.cons_append, List.cons_prefix_cons, List.cons_prefix_cons]
        at hPrefix
      exact absurd (hPrefix.2.1 ▸ List.mem_cons_of_mem c List.mem_cons_self) h
  · rintro rfl
    exact List.prefix_append ..

theorem bar_space_suffix_iff {after front : Text} (h : '|' ∉ after) :
    ['|', ' '] <:+ front ++ '|' :: after ↔ after = [' '] := by
  have hBack : '|' ∉ after.reverse := by rwa [List.mem_reverse]
  have hReversed : (front ++ '|' :: after).reverse = after.reverse ++ '|' :: front.reverse := by
    simp
  rw [← List.reverse_prefix, hReversed]
  show [' ', '|'] <+: _ ↔ _
  rw [space_bar_prefix_iff hBack, List.reverse_eq_iff]
  rfl

-- ---------------------------------------------------------------------------
-- What is left of a hint
-- ---------------------------------------------------------------------------

theorem noneWord_infix_behindBar : noneWord <:+: behindBar := (List.suffix_append ..).isInfix

theorem noneWord_infix_beforeBar : noneWord <:+: beforeBar := (List.prefix_append ..).isInfix

/-- Nothing is taken out where the word stands nowhere a space away from a bar. -/
theorem baseHint_of_not_infix {hint : Text} (hBehind : ¬ behindBar <:+: hint)
    (hBefore : ¬ beforeBar <:+: hint) : baseHint hint = strip hint := by
  rw [baseHint_eq, replaceAll_of_not_infix hBehind, replaceAll_of_not_infix hBefore]

section Base

variable {base : Text} (hNone : isOptional base = false)
include hNone

theorem baseHint_of_not_optional : baseHint base = strip base := by
  rw [isOptional_eq_false_iff] at hNone
  exact baseHint_of_not_infix (fun h => hNone (noneWord_infix_behindBar.trans h))
    fun h => hNone (noneWord_infix_beforeBar.trans h)

variable {before after : Text} (hBefore : isBlank before = true) (hAfter : isBlank after = true)
include hBefore hAfter

theorem not_infix_append_bar : ¬ noneWord <:+: base ++ (before ++ '|' :: after) := by
  intro hInfix
  have hEnd : 'e' ∉ before ++ '|' :: after := not_mem_bar hBefore hAfter (by decide)
  exact isOptional_eq_false_iff.mp hNone
    (infix_of_infix_append_right (u := ['N', 'o', 'n']) hEnd hInfix)

theorem not_infix_bar_append : ¬ noneWord <:+: before ++ '|' :: after ++ base := by
  intro hInfix
  have hStart : 'N' ∉ before ++ '|' :: after := not_mem_bar hBefore hAfter (by decide)
  exact isOptional_eq_false_iff.mp hNone (infix_of_infix_append_left hStart hInfix)

end Base

section Spelling

variable {base : Text} (hNone : isOptional base = false) {spelling : UnionSpelling}
  (hBlank : spelling.IsBlank)

theorem isOptional_write (spelling : UnionSpelling) (base : Text) :
    isOptional (spelling.write base) = true := by
  rw [← Bool.not_eq_false, isOptional_eq_false_iff, not_not]
  cases spelling with
  | last before after => exact (List.suffix_append ..).isInfix
  | first before after => exact (List.prefix_append ..).isInfix

include hNone hBlank

/-- **One space between the bar and the word**: what is left is the base. -/
theorem baseHint_write_of_gap (hGap : spelling.gap = [' ']) :
    baseHint (spelling.write base) = strip base := by
  cases spelling with
  | last before after =>
    obtain ⟨hBefore, hAfter⟩ := hBlank
    obtain rfl : after = [' '] := hGap
    have hFront : ¬ noneWord <:+: base ++ before := fun h =>
      not_infix_append_bar hNone hBefore hAfter
        (h.trans ⟨[], ['|', ' '], by simp⟩)
    have hWrite : (UnionSpelling.last before [' ']).write base
        = base ++ before ++ behindBar ++ [] := by
      simp [UnionSpelling.write, behindBar]
    have hTaken : replaceAll behindBar [] (base ++ before ++ behindBar ++ []) = base ++ before := by
      rw [replaceAll_append_token unbordered_behindBar (by decide)
        fun h => hFront (noneWord_infix_behindBar.trans h)]
      simp [replaceAll, replaceFrom]
    rw [baseHint_eq, hWrite, hTaken,
      replaceAll_of_not_infix fun h => hFront (noneWord_infix_beforeBar.trans h), strip]
    exact trimBy_append_right (List.all_eq_true.mp hBefore) base
  | first before after =>
    obtain ⟨hBefore, hAfter⟩ := hBlank
    obtain rfl : before = [' '] := hGap
    have hBack : ¬ noneWord <:+: after ++ base := fun h =>
      not_infix_bar_append hNone hBefore hAfter
        (h.trans (List.suffix_append [' ', '|'] (after ++ base)).isInfix)
    have hWord : ¬ noneWord <:+: [' ', '|'] ++ (after ++ base) :=
      not_infix_bar_append hNone hBefore hAfter
    have hWrite : (UnionSpelling.first [' '] after).write base
        = [] ++ beforeBar ++ (after ++ base) := by
      simp [UnionSpelling.write, beforeBar]
    have hBehind : ¬ behindBar <:+: (UnionSpelling.first [' '] after).write base := by
      show ¬ behindBar <:+: [] ++ noneWord ++ ([' ', '|'] ++ (after ++ base))
      rw [behindBar_infix_iff (by decide) hWord]
      decide
    rw [baseHint_eq, replaceAll_of_not_infix hBehind, hWrite,
      replaceAll_append_token unbordered_beforeBar (by decide) (by decide),
      replaceAll_of_not_infix fun h => hBack (noneWord_infix_beforeBar.trans h), strip,
      List.append_nil, List.nil_append]
    exact trimBy_append_left (List.all_eq_true.mp hAfter) base

/-- **Any other gap**: nothing is taken out. -/
theorem baseHint_write_of_gap_ne (hGap : spelling.gap ≠ [' ']) :
    baseHint (spelling.write base) = strip (spelling.write base) := by
  cases spelling with
  | last before after =>
    obtain ⟨hBefore, hAfter⟩ := hBlank
    have hFront := not_infix_append_bar hNone hBefore hAfter
    have hBar : '|' ∉ after := not_mem_of_isBlank (by decide) hAfter
    rw [← List.append_nil (UnionSpelling.write ..)]
    apply baseHint_of_not_infix
    · rw [UnionSpelling.write, behindBar_infix_iff hFront (by decide), ← List.append_assoc,
        bar_space_suffix_iff hBar]
      exact hGap
    · rw [UnionSpelling.write, beforeBar_infix_iff hFront (by decide)]
      decide
  | first before after =>
    obtain ⟨hBefore, hAfter⟩ := hBlank
    have hBack := not_infix_bar_append hNone hBefore hAfter
    have hBar : '|' ∉ before := not_mem_of_isBlank (by decide) hBefore
    rw [← List.nil_append (UnionSpelling.write ..), UnionSpelling.write, ← List.append_assoc]
    apply baseHint_of_not_infix
    · rw [behindBar_infix_iff (by decide) hBack]
      decide
    · rw [beforeBar_infix_iff (by decide) hBack, List.append_assoc, List.cons_append,
        space_bar_prefix_iff hBar]
      exact hGap

end Spelling

-- ---------------------------------------------------------------------------
-- Reading
-- ---------------------------------------------------------------------------

/-- The hints for single values that are not left as they are. -/
def scalarHints : List Text := ["bool".toList, "int".toList, "float".toList]

/-- A text is left as it is by all hints but those for single values and those for lists. -/
theorem decodeBase_eq_text_iff {hint raw : Text} :
    decodeBase hint (.text raw) = .ok (.text raw) ↔ hint ∉ scalarHints ∧ ¬ listLead <+: hint := by
  constructor
  · intro h
    constructor
    · simp only [scalarHints, List.mem_cons, List.not_mem_nil, or_false]
      rintro (rfl | rfl | rfl)
      · cases h
      · obtain ⟨n, -, hValue⟩ := bind_eq_ok_iff.mp h
        cases hValue
      · obtain ⟨x, -, hValue⟩ := bind_eq_ok_iff.mp h
        cases hValue
    · intro hList
      have hRead := decodeBase_of_prefix hList raw
      rw [h] at hRead
      cases hRead
  · rintro ⟨hScalar, hList⟩
    simp only [scalarHints, List.mem_cons, List.not_mem_nil, or_false, not_or] at hScalar
    rw [← List.isPrefixOf_iff_prefix] at hList
    rw [decodeBase, if_neg hScalar.1, if_neg hScalar.2.1, if_neg hScalar.2.2]
    exact if_neg hList

theorem decode_of_bare {base : Text} (hNone : isOptional base = false)
    (hTrim : strip base = base) (raw : Value) : decode base raw = decodeBase base raw := by
  rw [decode_of_not_optional hNone, baseHint_of_not_optional hNone, hTrim]

namespace UnionSpelling

/-- What a text is read as where the word has been left in the hint. Only a list is still known, by
what the hint begins with. -/
def leftover : UnionSpelling → Text → Text → Value
  | .last _ _, base, raw =>
    if listLead.isPrefixOf base then .list ((decodeList raw).map .text) else .text raw
  | .first _ _, _, raw => .text raw

/-- The base is one for which it does not matter that the word has been left in the hint. -/
def Spares : UnionSpelling → Text → Prop
  | .last _ _, base => base ∉ scalarHints
  | .first _ _, base => base ∉ scalarHints ∧ ¬ listLead <+: base

end UnionSpelling

/-- The bar is still there, and no hint for a single value holds one. -/
theorem strip_write_not_scalar (spelling : UnionSpelling) (base : Text) :
    strip (spelling.write base) ∉ scalarHints := by
  intro hScalar
  have hPlain : ∀ hint ∈ scalarHints, '|' ∉ hint := by decide
  apply hPlain _ hScalar
  apply mem_trimBy (by decide)
  cases spelling <;> simp [UnionSpelling.write]

section Left

variable {base : Text} (hTrim : strip base = base) {before after : Text}
  (hBefore : isBlank before = true)
include hTrim hBefore

/-- A hint with the word at its end begins like one for a list only if its base does. -/
theorem listLead_prefix_strip_last
    (h : listLead <+: strip ((UnionSpelling.last before after).write base)) :
    listLead <+: base := by
  by_cases hBase : base = []
  · -- without a base the bar is the first that is left
    rw [UnionSpelling.write, hBase, List.nil_append, List.append_assoc, strip,
      trimBy_append_left (List.all_eq_true.mp hBefore)] at h
    have hBar : ['|'] <+: trimBy isBlankChar (['|'] ++ (after ++ noneWord)) :=
      prefix_trimBy (by decide) _
    exact absurd (List.prefix_of_prefix_length_le hBar h (by decide)) (by decide)
  · have hWhole : strip ((UnionSpelling.last before after).write base)
        = base ++ before ++ '|' :: (after ++ noneWord) := by
      rw [UnionSpelling.write, strip, trimBy_of_ends]
      · simp
      · intro c hc
        rw [List.append_assoc, List.head?_append_of_ne_nil _ hBase, ← hTrim] at hc
        exact head_of_trimBy hc
      · intro c hc
        rw [List.getLast?_append_of_ne_nil _ (by decide)] at hc
        cases hc
        decide +kernel
    rw [hWhole] at h
    refine prefix_of_prefix_append_of_disjoint (fun c hc hLead => ?_)
      (prefix_of_prefix_append_cons (by decide) h)
    have hPlain : listLead.any isBlankChar = false := by decide
    exact not_mem_of_isBlank (List.any_eq_false.mp hPlain c hLead) hBefore hc

end Left

/-- A hint with the word at its beginning does not begin like one for a list. -/
theorem not_listLead_prefix_strip_first (before after base : Text) :
    ¬ listLead <+: strip ((UnionSpelling.first before after).write base) := by
  intro hList
  have hWord : noneWord <+: strip ((UnionSpelling.first before after).write base) :=
    prefix_trimBy (by decide) _
  exact absurd (List.prefix_of_prefix_length_le hList hWord (by decide)) (by decide)

/-- Where the word is left in the hint, only a list behind it is known. -/
theorem decodeBase_strip_write {base : Text} (hTrim : strip base = base)
    {spelling : UnionSpelling} (hBlank : spelling.IsBlank) (raw : Text) :
    decodeBase (strip (spelling.write base)) (.text raw) = .ok (spelling.leftover base raw) := by
  have hScalar := strip_write_not_scalar spelling base
  cases spelling with
  | last before after =>
    rw [UnionSpelling.leftover]
    by_cases hList : listLead <+: base
    · rw [if_pos (List.isPrefixOf_iff_prefix.mpr hList)]
      apply decodeBase_of_prefix
      obtain ⟨rest, rfl⟩ := hList
      rw [UnionSpelling.write, List.append_assoc, List.append_assoc]
      exact prefix_trimBy (by decide) _
    · rw [if_neg fun h => hList (List.isPrefixOf_iff_prefix.mp h)]
      exact decodeBase_eq_text_iff.mpr
        ⟨hScalar, fun h => hList (listLead_prefix_strip_last hTrim hBlank.1 h)⟩
  | first before after =>
    exact decodeBase_eq_text_iff.mpr ⟨hScalar, not_listLead_prefix_strip_first before after base⟩

/-- What is left over is what the base reads, if the spelling spares the base, and only then. -/
theorem leftover_eq_iff {spelling : UnionSpelling} {base raw : Text} :
    .ok (spelling.leftover base raw) = decodeBase base (.text raw) ↔ spelling.Spares base := by
  cases spelling with
  | last before after =>
    rw [UnionSpelling.leftover, UnionSpelling.Spares]
    by_cases hList : listLead <+: base
    · have hScalar : base ∉ scalarHints := by
        obtain ⟨rest, rfl⟩ := hList
        simp [scalarHints, listLead]
      rw [if_pos (List.isPrefixOf_iff_prefix.mpr hList), decodeBase_of_prefix hList]
      exact iff_of_true rfl hScalar
    · rw [if_neg fun h => hList (List.isPrefixOf_iff_prefix.mp h), eq_comm,
        decodeBase_eq_text_iff]
      exact and_iff_left hList
  | first before after =>
    rw [eq_comm]
    exact decodeBase_eq_text_iff

/-- **What comes of a text under an optional hint.** A word for nothing is read as no value, however
the hint is spelled. With one space between the bar and `None` every other text is read as it is
under the base, refusals included. With any other gap it is left as it is, or read as a list if the
hint begins with a base that says so; that is what the base reads only if the spelling spares it,
which none does for truth values and numbers. -/
theorem decode_write_by_gap {base : Text} (hNone : isOptional base = false)
    (hTrim : strip base = base) {spelling : UnionSpelling} (hBlank : spelling.IsBlank)
    (raw : Text) :
    (lower (strip raw) ∈ nullWords → decode (spelling.write base) (.text raw) = .ok .null)
    ∧ (lower (strip raw) ∉ nullWords →
      (spelling.gap = [' '] →
        decode (spelling.write base) (.text raw) = decode base (.text raw))
      ∧ (spelling.gap ≠ [' '] →
        decode (spelling.write base) (.text raw) = .ok (spelling.leftover base raw)
        ∧ (decode (spelling.write base) (.text raw) = decode base (.text raw) ↔
          spelling.Spares base))) := by
  have hBase := decode_of_bare hNone hTrim (.text raw)
  constructor
  · exact fun hWord => decode_list_of_nothing ⟨isOptional_write spelling base, hWord⟩
  · intro hWord
    have hRead : decode (spelling.write base) (.text raw)
        = decodeBase (baseHint (spelling.write base)) (.text raw) :=
      decode_of_something fun hNothing => hWord hNothing.2
    constructor
    · intro hGap
      rw [hRead, baseHint_write_of_gap hNone hBlank hGap, hTrim, hBase]
    · intro hGap
      rw [hRead, baseHint_write_of_gap_ne hNone hBlank hGap, decodeBase_strip_write hTrim hBlank,
        hBase]
      exact ⟨rfl, leftover_eq_iff⟩

/-- An optional integer in four spellings: with spaces around the bar its text is read, and without
them it is not. -/
theorem decode_write_by_gap_integer :
    isOptional "int".toList = false ∧ strip "int".toList = "int".toList
    ∧ lower (strip "5".toList) ∉ nullWords
    ∧ decode "int | None".toList (.text "5".toList) = decode "int".toList (.text "5".toList)
    ∧ decode "None | int".toList (.text "5".toList) = decode "int".toList (.text "5".toList)
    ∧ decode "int|None".toList (.text "5".toList) ≠ decode "int".toList (.text "5".toList)
    ∧ decode "None|int".toList (.text "5".toList) ≠ decode "int".toList (.text "5".toList) := by
  have hNone : isOptional "int".toList = false := by decide
  have hTrim : strip "int".toList = "int".toList := by decide +kernel
  have hWord : lower (strip "5".toList) ∉ nullWords := by decide +kernel
  have hReads : ∀ spelling : UnionSpelling, spelling.IsBlank → spelling.gap = [' '] →
      decode (spelling.write "int".toList) (.text "5".toList)
        = decode "int".toList (.text "5".toList) := fun spelling hBlank hGap =>
    ((decode_write_by_gap hNone hTrim hBlank "5".toList).2 hWord).1 hGap
  have hLeaves : ∀ spelling : UnionSpelling, spelling.IsBlank → spelling.gap ≠ [' '] →
      ¬ spelling.Spares "int".toList → decode (spelling.write "int".toList) (.text "5".toList)
        ≠ decode "int".toList (.text "5".toList) := fun spelling hBlank hGap hSpares hSame =>
    hSpares ((((decode_write_by_gap hNone hTrim hBlank "5".toList).2 hWord).2 hGap).2.mp hSame)
  refine ⟨hNone, hTrim, hWord, ?_, ?_, ?_, ?_⟩
  · exact hReads (.last [' '] [' ']) ⟨rfl, rfl⟩ rfl
  · exact hReads (.first [' '] [' ']) ⟨rfl, rfl⟩ rfl
  · exact hLeaves (.last [] []) ⟨rfl, rfl⟩ (by decide) fun h => h (by decide)
  · exact hLeaves (.first [] []) ⟨rfl, rfl⟩ (by decide) fun h => h.1 (by decide)

/-- Without a space behind the bar an optional integer is left as the text that it is. -/
theorem unspaced_integer_unread :
    lower (strip "5".toList) ∉ nullWords
    ∧ decode "int|None".toList (.text "5".toList) = .ok (.text "5".toList)
    ∧ decode "int".toList (.text "5".toList) = .ok (.int 5) := by
  have hWord : lower (strip "5".toList) ∉ nullWords := by decide +kernel
  have hLeft : baseHint "int|None".toList = "int|None".toList := by decide +kernel
  have hBare : baseHint "int".toList = "int".toList := by decide +kernel
  have hFive : Number.intText 5 = "5".toList := by decide +kernel
  refine ⟨hWord, ?_, ?_⟩
  · rw [decode_of_something fun hNothing => hWord hNothing.2, hLeft]
    rfl
  · rw [decode_of_something fun hNothing => hWord hNothing.2, hBare, ← hFive]
    exact decodeBase_number (by decide +kernel)

end Settings

end EventLoom
