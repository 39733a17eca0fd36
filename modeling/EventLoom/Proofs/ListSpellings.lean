import EventLoom.Proofs.SettingsRoundTrip

/-!
# The spellings of a list

A setting that is read as a list may be written with white space around its items and with commas
too many. What is read is what is left between the commas: items that are not empty, hold no comma
and have no white space at their ends. Such items are read from every text that spells them
(`Spells`), and every text spells the items that are read from it, so reading and spelling are one
relation (`decodeList_eq_iff`). Of all the spellings the shortest one has the items between single
commas.

A hint for a list that admits that there is no value takes some texts for nothing before they are
looked at as a list. Then a list cannot be spelled by a word for nothing, nor can the list without
items be spelled by white space alone.

## Results

* `trimBy_append` — what is around a text does not matter for what is left of it.
* `isItem_of_mem_decodeList` — what is read are items.
* `decodeList_eq_iff` — a text is read as the items that it spells.
* `decode_list_spelled` — what comes of a setting whose hint is one for a list.
-/

namespace EventLoom

open Text

-- ---------------------------------------------------------------------------
-- Ends of texts
-- ---------------------------------------------------------------------------

namespace Text

variable {p : Char → Bool} {t before after : Text}

theorem not_mem_of_mem_cut {separator : Char} {part : Text} (h : part ∈ cut separator t) :
    separator ∉ part := by
  induction t generalizing part with
  | nil =>
    rw [cut, List.mem_singleton] at h
    rw [h]
    exact List.not_mem_nil
  | cons c rest ih =>
    rw [cut] at h
    split at h
    · rcases List.mem_cons.mp h with rfl | hRest
      · exact List.not_mem_nil
      · exact ih hRest
    · rename_i hc
      obtain ⟨first, others, hParts⟩ := List.exists_cons_of_ne_nil (cut_ne_nil separator rest)
      rw [hParts] at ih h
      rcases List.mem_cons.mp h with rfl | hOther
      · rw [List.mem_cons, not_or]
        exact ⟨Ne.symm hc, ih List.mem_cons_self⟩
      · exact ih (List.mem_cons_of_mem first hOther)

theorem not_mem_of_isBlank {c : Char} (hc : ¬ isBlankChar c = true) (h : isBlank t = true) :
    c ∉ t := fun hMem => hc (List.all_eq_true.mp h c hMem)

/-- What is around a text does not matter for what is left of it. -/
theorem trimBy_append (hBefore : ∀ c ∈ before, p c = true) (hAfter : ∀ c ∈ after, p c = true)
    (t : Text) : trimBy p (before ++ t ++ after) = trimBy p t := by
  rw [trimBy, trimBy, List.append_assoc, List.dropWhile_append_of_pos hBefore,
    List.dropWhile_append]
  split
  · rename_i hNothing
    rw [(dropWhile_eq_nil_iff_all p after).mpr (List.all_eq_true.mpr hAfter),
      List.isEmpty_iff.mp hNothing]
  · have hBack : ∀ c ∈ after.reverse, p c = true := by simpa using hAfter
    rw [List.reverse_append, List.dropWhile_append_of_pos hBack]

/-- A text is what is left of it with characters of the class around that. -/
theorem exists_eq_trimBy (p : Char → Bool) (t : Text) :
    ∃ before after, t = before ++ trimBy p t ++ after ∧ (∀ c ∈ before, p c = true)
      ∧ ∀ c ∈ after, p c = true := by
  have hFront := List.takeWhile_append_dropWhile (p := p) (l := t)
  have hBack := List.takeWhile_append_dropWhile (p := p) (l := (t.dropWhile p).reverse)
  refine ⟨t.takeWhile p, ((t.dropWhile p).reverse.takeWhile p).reverse, ?_, ?_, ?_⟩
  · rw [trimBy, List.append_assoc, ← List.reverse_append, hBack, List.reverse_reverse, hFront]
  · exact List.all_eq_true.mp List.all_takeWhile
  · exact fun c hc => List.all_eq_true.mp List.all_takeWhile c (List.mem_reverse.mp hc)

theorem last_of_trimBy {c : Char} (h : c ∈ (trimBy p t).getLast?) : p c = false := by
  rw [trimBy, List.getLast?_reverse] at h
  have hHead := List.head?_dropWhile_not p (t.dropWhile p).reverse
  rw [h] at hHead
  exact hHead

theorem head_of_trimBy {c : Char} (h : c ∈ (trimBy p t).head?) : p c = false := by
  -- what is left begins where the characters of the class at the front end
  have hFront : c ∈ (t.dropWhile p).head? := by
    obtain ⟨after, hAfter⟩ := List.dropWhile_suffix p (l := (t.dropWhile p).reverse)
    have hWhole : t.dropWhile p = trimBy p t ++ after.reverse := by
      rw [trimBy, ← List.reverse_append, hAfter, List.reverse_reverse]
    rw [hWhole, List.head?_append, h]
    rfl
  have hHead := List.head?_dropWhile_not p t
  rw [hFront] at hHead
  exact hHead

/-- Characters outside of the class are not dropped, nor is what stands behind them, but for its
end. -/
theorem prefix_trimBy {lead : Text} (hLead : lead.any p = false) (rest : Text) :
    lead <+: trimBy p (lead ++ rest) := by
  have h : ∀ c ∈ lead, p c = false := fun c hc =>
    Bool.eq_false_iff.mpr (List.any_eq_false.mp hLead c hc)
  have hBack : lead.reverse.dropWhile p = lead.reverse :=
    dropWhile_of_head fun c hc => h c (List.mem_reverse.mp (List.mem_of_head? hc))
  by_cases hNone : lead = []
  · rw [hNone]
    exact List.nil_prefix
  · have hFront : (lead ++ rest).dropWhile p = lead ++ rest := by
      refine dropWhile_of_head fun c hc => h c ?_
      rw [List.head?_append_of_ne_nil _ hNone] at hc
      exact List.mem_of_head? hc
    rw [trimBy, hFront, List.reverse_append, List.dropWhile_append]
    split
    · have hKept : (lead.reverse.dropWhile p).reverse = lead := by
        rw [hBack, List.reverse_reverse]
      exact hKept.symm ▸ List.prefix_rfl
    · rw [List.reverse_append, List.reverse_reverse]
      exact List.prefix_append lead _

/-- Where no character is one of the token, nothing is replaced. -/
theorem replaceAll_append_of_disjoint {old new lead : Text} (hOld : old ≠ [])
    (h : ∀ c ∈ lead, c ∉ old) (rest : Text) :
    replaceAll old new (lead ++ rest) = lead ++ replaceAll old new rest := by
  induction lead with
  | nil => rfl
  | cons c lead ih =>
    obtain ⟨hc, hLead⟩ := List.forall_mem_cons.mp h
    have hFirst : replaceAll old new (c :: (lead ++ rest))
        = c :: replaceAll old new (lead ++ rest) :=
      replaceAll_append_of_not_mem (a := []) hc hOld
    rw [List.cons_append, hFirst, ih hLead, List.cons_append]

end Text

namespace Settings

-- ---------------------------------------------------------------------------
-- Spellings
-- ---------------------------------------------------------------------------

/-- The pieces between the commas spell the items: each item has any white space around it, and
there may be blank pieces anywhere. -/
inductive Spells : List Text → List Text → Prop where
  | nil : Spells [] []
  | blank {piece : Text} {pieces items : List Text} (hBlank : isBlank piece = true)
    (hRest : Spells pieces items) : Spells (piece :: pieces) items
  | item {before item after : Text} {pieces items : List Text} (hBefore : isBlank before = true)
    (hAfter : isBlank after = true) (hRest : Spells pieces items) :
    Spells ((before ++ item ++ after) :: pieces) (item :: items)

/-- What is left of pieces, without those of which nothing is left. -/
def itemsOf (pieces : List Text) : List Text := (pieces.map strip).filter fun item => item ≠ []

theorem decodeList_eq (raw : Text) : decodeList raw = itemsOf (cut ',' raw) := rfl

theorem itemsOf_cons (piece : Text) (pieces : List Text) :
    itemsOf (piece :: pieces) =
      if strip piece = [] then itemsOf pieces else strip piece :: itemsOf pieces := by
  rw [itemsOf, List.map_cons, List.filter_cons]
  by_cases hNone : strip piece = []
  · simp [hNone, itemsOf]
  · simp [hNone, itemsOf]

/-- All pieces spell what is left of them. -/
theorem spells_itemsOf (pieces : List Text) : Spells pieces (itemsOf pieces) := by
  induction pieces with
  | nil => exact .nil
  | cons piece rest ih =>
    rw [itemsOf_cons]
    split
    · rename_i hNone
      exact .blank ((strip_eq_nil_iff piece).mp hNone) ih
    · obtain ⟨before, after, hPiece, hBefore, hAfter⟩ := exists_eq_trimBy isBlankChar piece
      have hSpells : Spells ((before ++ strip piece ++ after) :: rest)
          (strip piece :: itemsOf rest) :=
        .item (List.all_eq_true.mpr hBefore) (List.all_eq_true.mpr hAfter) ih
      rw [strip, ← hPiece] at hSpells
      exact hSpells

theorem isItem_iff {item : Text} :
    IsItem item ↔ item ≠ [] ∧ ',' ∉ item ∧ item.head?.any isBlankChar = false
      ∧ item.getLast?.any isBlankChar = false := by
  constructor
  · intro h
    exact ⟨h.ne_nil, h.no_comma, (Option.any_eq_false _ _).mpr h.head_not_blank,
      (Option.any_eq_false _ _).mpr h.last_not_blank⟩
  · rintro ⟨hSome, hComma, hHead, hLast⟩
    exact ⟨hSome, hComma, (Option.any_eq_false _ _).mp hHead, (Option.any_eq_false _ _).mp hLast⟩

instance (item : Text) : Decidable (IsItem item) := decidable_of_iff _ isItem_iff.symm

/-- **What is read are items.** -/
theorem isItem_of_mem_decodeList {raw item : Text} (h : item ∈ decodeList raw) : IsItem item := by
  obtain ⟨hMem, hSome⟩ := List.mem_filter.mp h
  obtain ⟨piece, hPiece, rfl⟩ := List.mem_map.mp hMem
  refine ⟨of_decide_eq_true hSome, ?_, fun c => head_of_trimBy, fun c => last_of_trimBy⟩
  intro hComma
  obtain ⟨before, after, hWhole, -, -⟩ := exists_eq_trimBy isBlankChar piece
  apply not_mem_of_mem_cut hPiece
  rw [hWhole]
  exact List.mem_append_left _ (List.mem_append_right _ hComma)

/-- Nothing but the items is left of what spells them, and there are no other commas in it. -/
theorem Spells.itemsOf_eq {pieces items : List Text} (h : Spells pieces items)
    (hItems : ∀ item ∈ items, IsItem item) :
    itemsOf pieces = items ∧ ∀ piece ∈ pieces, ',' ∉ piece := by
  induction h with
  | nil => exact ⟨rfl, nofun⟩
  | @blank piece pieces items hBlank hRest ih =>
    obtain ⟨hLeft, hCommas⟩ := ih hItems
    rw [itemsOf_cons, if_pos ((strip_eq_nil_iff piece).mpr hBlank)]
    exact ⟨hLeft, List.forall_mem_cons.mpr ⟨not_mem_of_isBlank (by decide) hBlank, hCommas⟩⟩
  | @item before item after pieces items hBefore hAfter hRest ih =>
    obtain ⟨hItem, hOthers⟩ := List.forall_mem_cons.mp hItems
    obtain ⟨hLeft, hCommas⟩ := ih hOthers
    have hStrip : strip (before ++ item ++ after) = item := by
      rw [strip, trimBy_append (List.all_eq_true.mp hBefore) (List.all_eq_true.mp hAfter)]
      exact strip_of_isItem hItem
    have hPiece : ',' ∉ before ++ item ++ after := by
      simp only [List.mem_append, not_or]
      exact ⟨⟨not_mem_of_isBlank (by decide) hBefore, hItem.no_comma⟩,
        not_mem_of_isBlank (by decide) hAfter⟩
    rw [itemsOf_cons, hStrip, if_neg hItem.ne_nil, hLeft]
    exact ⟨rfl, List.forall_mem_cons.mpr ⟨hPiece, hCommas⟩⟩

theorem decodeList_of_spells {pieces items : List Text} (h : Spells pieces items)
    (hItems : ∀ item ∈ items, IsItem item) : decodeList (join [','] pieces) = items := by
  obtain ⟨hLeft, hCommas⟩ := h.itemsOf_eq hItems
  by_cases hNone : pieces = []
  · -- no piece at all is written as one without anything in it
    rw [← hLeft, hNone]
    rfl
  · rw [decodeList_eq, cut_join hNone hCommas, hLeft]

/-- **A text is read as the items that it spells.** -/
theorem decodeList_eq_iff {raw : Text} {items : List Text} :
    decodeList raw = items ↔
      (∀ item ∈ items, IsItem item) ∧ ∃ pieces, Spells pieces items ∧ raw = join [','] pieces := by
  constructor
  · rintro rfl
    refine ⟨fun item => isItem_of_mem_decodeList, cut ',' raw, ?_, (join_cut ',' raw).symm⟩
    exact spells_itemsOf (cut ',' raw)
  · rintro ⟨hItems, pieces, hSpells, rfl⟩
    exact decodeList_of_spells hSpells hItems

-- ---------------------------------------------------------------------------
-- Hints for lists
-- ---------------------------------------------------------------------------

/-- What a hint for a list begins with. -/
def listLead : Text := "list".toList

/-- A hint begins like one for a list, or does without the alternative of nothing. -/
def IsListHint (hint : Text) : Prop := listLead <+: hint ∨ listLead <+: baseHint hint

/-- The hint takes the text for no value. -/
def StandsForNothing (hint t : Text) : Prop :=
  isOptional hint = true ∧ lower (strip t) ∈ nullWords

/-- Taking the alternative of nothing out leaves the beginning as it is. -/
theorem IsListHint.prefix_baseHint {hint : Text} (h : IsListHint hint) :
    listLead <+: baseHint hint := by
  rcases h with ⟨rest, rfl⟩ | hBase
  · have hBehind : ∀ c ∈ listLead, c ∉ "| None".toList := by simp [listLead]
    have hAhead : ∀ c ∈ listLead, c ∉ "None |".toList := by simp [listLead]
    rw [baseHint, replaceAll_append_of_disjoint (by decide) hBehind,
      replaceAll_append_of_disjoint (by decide) hAhead, strip]
    exact prefix_trimBy (by decide) _
  · exact hBase

theorem decodeBase_of_prefix {base : Text} (h : listLead <+: base) (raw : Text) :
    decodeBase base (.text raw) = .ok (.list ((decodeList raw).map .text)) := by
  obtain ⟨rest, rfl⟩ := h
  rfl

theorem decode_list_of_nothing {hint raw : Text} (h : StandsForNothing hint raw) :
    decode hint (.text raw) = .ok .null := by
  have hWord : isWord nullWords (.text raw) = .ok true := by
    rw [isWord_text, List.contains_eq_mem, decide_eq_true h.2]
  exact decode_of_word h.1 hWord

/-- A setting that does not stand for nothing is read as the base says. -/
theorem decode_of_something {hint raw : Text} (h : ¬ StandsForNothing hint raw) :
    decode hint (.text raw) = decodeBase (baseHint hint) (.text raw) := by
  cases hOptional : isOptional hint with
  | false => exact decode_of_not_optional hOptional _
  | true =>
    refine decode_of_not_word hOptional ?_
    rw [isWord_text, List.contains_eq_mem, decide_eq_false fun hWord => h ⟨hOptional, hWord⟩]

/-- A setting that does not stand for nothing is read as a list. -/
theorem decode_list {hint : Text} (hHint : IsListHint hint) {raw : Text}
    (h : ¬ StandsForNothing hint raw) :
    decode hint (.text raw) = .ok (.list ((decodeList raw).map .text)) := by
  rw [decode_of_something h, decodeBase_of_prefix hHint.prefix_baseHint]

/-- **What comes of a setting whose hint is one for a list.** A text that the hint takes for nothing
is read as no value. Every other text is read as a list of items, which it spells; and all texts
that spell items are read as these, the one with single commas between them first of all, if only
the hint does not take them for nothing. -/
theorem decode_list_spelled {hint : Text} (hHint : IsListHint hint) :
    (∀ raw, StandsForNothing hint raw → decode hint (.text raw) = .ok .null)
    ∧ (∀ raw, ¬ StandsForNothing hint raw → ∃ items,
        decode hint (.text raw) = .ok (.list (items.map .text)) ∧ (∀ item ∈ items, IsItem item)
        ∧ (∃ pieces, Spells pieces items ∧ raw = join [','] pieces)
        ∧ (¬ StandsForNothing hint (join [','] items) →
          decode hint (.text (join [','] items)) = .ok (.list (items.map .text))))
    ∧ ∀ pieces items, (∀ item ∈ items, IsItem item) → Spells pieces items →
        ¬ StandsForNothing hint (join [','] pieces) →
          decode hint (.text (join [','] pieces)) = .ok (.list (items.map .text)) := by
  refine ⟨fun _ => decode_list_of_nothing, ?_, ?_⟩
  · intro raw hRaw
    obtain ⟨hItems, hSpelled⟩ := decodeList_eq_iff.mp (Eq.refl (decodeList raw))
    refine ⟨decodeList raw, decode_list hHint hRaw, hItems, hSpelled, fun hAgain => ?_⟩
    rw [decode_list hHint hAgain, decodeList_join hItems]
  · intro pieces items hItems hSpells hPieces
    rw [decode_list hHint hPieces, decodeList_of_spells hSpells hItems]

/-- Tags with an inner space and with the word for nothing among them. -/
def tagItems : List Text := ["a b".toList, "none".toList]

/-- The tags as somebody may write them. -/
def tagPieces : List Text :=
  [['\t'], [' '] ++ "a b".toList ++ [], [], [] ++ "none".toList ++ ['\n']]

theorem decode_list_spelled_tags :
    IsListHint "list[str] | None".toList ∧ (∀ item ∈ tagItems, IsItem item)
      ∧ Spells tagPieces tagItems
      ∧ ¬ StandsForNothing "list[str] | None".toList "\t, a b,,none\n".toList
      ∧ decode "list[str] | None".toList (.text "\t, a b,,none\n".toList)
        = .ok (.list (tagItems.map .text)) := by
  have hHint : IsListHint "list[str] | None".toList := .inl ⟨_, rfl⟩
  have hItems : ∀ item ∈ tagItems, IsItem item := by decide
  have hSpells : Spells tagPieces tagItems :=
    .blank rfl (.item rfl rfl (.blank rfl (.item rfl rfl .nil)))
  have hSomething : ¬ StandsForNothing "list[str] | None".toList "\t, a b,,none\n".toList := by
    have hWord : lower (strip "\t, a b,,none\n".toList) ∉ nullWords := by decide +kernel
    exact fun h => hWord h.2
  obtain ⟨-, -, hRead⟩ := decode_list_spelled hHint
  exact ⟨hHint, hItems, hSpells, hSomething, hRead tagPieces tagItems hItems hSpells hSomething⟩

/-- Where a hint admits that there is no value, an item that is a word for nothing is lost when the
list is written with single commas. -/
theorem word_item_lost :
    decode "list[str] | None".toList (.text "none,".toList) = .ok (.list [.text "none".toList])
      ∧ decode "list[str] | None".toList (.text (join [','] ["none".toList])) = .ok .null := by
  have hHint : IsListHint "list[str] | None".toList := .inl ⟨_, rfl⟩
  have hSomething : lower (strip "none,".toList) ∉ nullWords := by decide +kernel
  have hNothing : lower (strip (join [','] ["none".toList])) ∈ nullWords := by decide +kernel
  constructor
  · rw [decode_list hHint fun h => hSomething h.2]
    rfl
  · exact decode_list_of_nothing ⟨by decide, hNothing⟩

end Settings

end EventLoom
