import EventLoom.Json.Reader
import EventLoom.Proofs.Escapes

/-!
# What is written as JSON is read back

Null, truth values, integers, texts, and lists and tables of them (`IsTree`) have JSON forms of
their own, and reading gives them back (`read_write`). So two of them never have one form.

The reader does not see where a form ends but by what comes next. So every part is read with
whatever may follow it: digits end where no digit comes (`StopsValue`), a text ends at the first
quote that belongs to no escape sequence, and a bracket ends where its closing bracket stands in
place of a comma. A list reads back if its items do (`readItems?_join`), for any reader of items,
so arrays and objects need no induction of their own; the one induction is on the tree. The readers
bound how deep brackets lie and how many items they hold by the length of the text, and what is
written is long enough.

## Results

* `readText?_escape`, `readNumber?_intText` — texts and integers read back.
* `readBracketed?_join` — so do lists of whatever reads back.
* `read_write`, `write_injective` — and so do trees, which therefore have different forms.
* `space_le_of_mem_write` — the form of a tree is one line.
-/

namespace EventLoom

open Text Number

-- ---------------------------------------------------------------------------
-- Trees
-- ---------------------------------------------------------------------------

/-- A value that JSON has a form for: a tree of lists and of tables with different texts as names,
over nothing, truth values, texts, and integers that are not too long to be written. -/
inductive Value.IsTree : Value → Prop
  | null : IsTree .null
  | bool (b : Bool) : IsTree (.bool b)
  | int {n : Int} (h : Number.fitsText n = true) : IsTree (.int n)
  | text (t : Text) : IsTree (.text t)
  | list {items : List Value} (h : ∀ item ∈ items, IsTree item) : IsTree (.list items)
  | table {members : Table Value} (hNames : (Table.keys members).Nodup)
      (hValues : ∀ member ∈ members, IsTree member.2) : IsTree (.ofTable members)

namespace Json

-- ---------------------------------------------------------------------------
-- Separators
-- ---------------------------------------------------------------------------

/-- Whether a separator is a sign with nothing but spaces behind it. -/
def IsSpaced (sign : Char) (separator : Text) : Prop :=
  ∃ n, separator = sign :: List.replicate n ' '

/-- Whether items are separated by a comma, and names from values by a colon. -/
structure Style.Legible (style : Style) : Prop where
  item : IsSpaced ',' style.item
  key : IsSpaced ':' style.key

theorem legible_spaced : Style.spaced.Legible := ⟨⟨1, rfl⟩, ⟨1, rfl⟩⟩

/-- What may stand behind a value: nothing, or a sign that follows an item. -/
def StopsValue (rest : Text) : Prop := ∀ c ∈ rest.head?, c = ',' ∨ c = ']' ∨ c = '}'

theorem skipSpace_replicate (n : Nat) (t : Text) :
    skipSpace (List.replicate n ' ' ++ t) = skipSpace t := by
  refine List.dropWhile_append_of_pos fun c hc => ?_
  rw [List.eq_of_mem_replicate hc]
  rfl

theorem skipSpace_cons {c : Char} (h : isSpace c = false) (rest : Text) :
    skipSpace (c :: rest) = c :: rest := List.dropWhile_cons_of_neg (by simp [h])

-- ---------------------------------------------------------------------------
-- Texts
-- ---------------------------------------------------------------------------

theorem readText?_append (skipped rest : Text) :
    readText? skipped.length (skipped ++ rest) = readText? 0 rest := by
  induction skipped with
  | nil => rfl
  | cons c more ih => exact ih

theorem hexPadded_four {n : Nat} (h : n < 0x20) :
    hexPadded 4 n = ['0', '0', Nat.digitChar (n / 16), Nat.digitChar (n % 16)] := by
  revert n
  decide

theorem fourHex?_control {n : Nat} (h : n < 0x20) (rest : Text) :
    fourHex? ('0' :: '0' :: Nat.digitChar (n / 16) :: Nat.digitChar (n % 16) :: rest) = some n := by
  have hZero : hexDigit? '0' = some 0 := rfl
  simp [fourHex?, hZero, hexDigit?_digitChar _ (show n / 16 < 16 by omega),
    hexDigit?_digitChar _ (show n % 16 < 16 by omega)]
  omega

theorem ofEscape?_sign {c d : Char} (hSign : ofEscapeSign? c = some d) (hOther : c ≠ 'u')
    (rest : Text) : ofEscape? (c :: rest) = some (d, 1) := by
  rw [ofEscape?, if_neg hOther, hSign]
  rfl

/-- A character that needs an escape sequence gets one that stands for it. -/
theorem exists_escape_sequence {c : Char} (h : isPlainChar c = false) :
    ∃ sequence, escapeChar c = '\\' :: sequence ∧
      ∀ rest, ofEscape? (sequence ++ rest) = some (c, sequence.length) := by
  have hShort : ∀ sign d, ofEscapeSign? sign = some d → sign ≠ 'u' → c = d →
      ∃ sequence, ['\\', sign] = '\\' :: sequence ∧
        ∀ rest, ofEscape? (sequence ++ rest) = some (c, sequence.length) := by
    intro sign d hSign hOther hc
    exact ⟨[sign], rfl, fun rest => hc ▸ ofEscape?_sign hSign hOther rest⟩
  unfold escapeChar
  split
  · exact hShort '"' '"' rfl (by decide) ‹_›
  split
  · exact hShort '\\' '\\' rfl (by decide) ‹_›
  split
  · exact hShort 'n' '\n' rfl (by decide) ‹_›
  split
  · exact hShort 'r' '\r' rfl (by decide) ‹_›
  split
  · exact hShort 't' '\t' rfl (by decide) ‹_›
  split
  · exact hShort 'b' '\x08' rfl (by decide) ‹_›
  split
  · exact hShort 'f' '\x0C' rfl (by decide) ‹_›
  split
  · -- the characters below the space without a sign of their own
    rename_i hLow
    rw [hexPadded_four hLow]
    refine ⟨_, rfl, fun rest => ?_⟩
    have hUnit : c.toNat < 0xD800 := by omega
    simp [ofEscape?, fourHex?_control hLow, hUnit]
  · simp_all [isPlainChar]

theorem readText?_escapeChar (c : Char) (rest : Text) :
    readText? 0 (escapeChar c ++ rest)
      = (readText? 0 rest).map fun (more, behind) => (c :: more, behind) := by
  cases hPlain : isPlainChar c with
  | true =>
    have hParts : c ≠ '"' ∧ c ≠ '\\' ∧ ¬ c.toNat < 0x20 := by
      simpa [isPlainChar, and_assoc] using hPlain
    rw [escapeChar_of_plain hPlain, List.singleton_append, readText?, if_neg hParts.1,
      if_neg hParts.2.1, if_neg hParts.2.2]
    cases readText? 0 rest <;> rfl
  | false =>
    obtain ⟨sequence, hEscape, hRead⟩ := exists_escape_sequence hPlain
    rw [hEscape, List.cons_append, readText?, if_neg (by decide), if_pos rfl, hRead]
    simp only [Option.bind_eq_bind, Option.bind_some, readText?_append]
    cases readText? 0 rest <;> rfl

/-- **A text** that is written reads back as itself. -/
theorem readText?_escape (t rest : Text) :
    readText? 0 (escape t ++ '"' :: rest) = some (t, rest) := by
  induction t with
  | nil => rfl
  | cons c more ih =>
    rw [escape_cons, List.append_assoc, readText?_escapeChar, ih]
    rfl

-- ---------------------------------------------------------------------------
-- Integers
-- ---------------------------------------------------------------------------

theorem leadingDigits_natText (n : Nat) {rest : Text} (hRest : StopsValue rest) :
    leadingDigits (natText n ++ rest) = ((natText n).map fun c => c.toNat - 48, rest) := by
  have hDigits : ∀ c ∈ natText n, c.isDigit = true := fun _ h => isDigit_of_mem_natText h
  have hNone : ∀ c ∈ rest.head?, c.isDigit = false := by
    intro c hc
    rcases hRest c hc with rfl | rfl | rfl <;> rfl
  have hBehind : rest.takeWhile Char.isDigit = [] ∧ rest.dropWhile Char.isDigit = rest := by
    cases rest with
    | nil => exact ⟨rfl, rfl⟩
    | cons c more => simp [hNone c rfl]
  rw [leadingDigits, List.takeWhile_append_of_pos hDigits, List.dropWhile_append_of_pos hDigits,
    hBehind.1, hBehind.2, List.append_nil]

theorem readWholePart?_natText (n : Nat) {rest : Text} (hRest : StopsValue rest) :
    readWholePart? (natText n ++ rest) = some ((natText n).map fun c => c.toNat - 48, rest) := by
  have hSome : natText n ≠ [] := Nat.toDigits_ne_nil
  have hZero : ((natText n ++ rest).head? = some '0' && 1 < (natText n).length) = false := by
    rw [List.head?_append, Option.or_of_isSome (by simpa using hSome)]
    rcases Nat.eq_zero_or_pos n with rfl | hPos
    · rfl
    · simp [head?_natText_ne_zero hPos]
  rw [readWholePart?, readSomeDigits?, leadingDigits_natText n hRest]
  simp only [List.isEmpty_map, List.isEmpty_iff, hSome, if_false, Option.bind_eq_bind,
    Option.bind_some, List.length_map, hZero, Bool.false_eq_true]

theorem readFractionPart?_of_stopsValue {rest : Text} (hRest : StopsValue rest) :
    readFractionPart? rest = some ([], rest) := by
  unfold readFractionPart?
  split
  · rcases hRest '.' rfl with h | h | h <;> cases h
  · rfl

theorem readExponentPart?_of_stopsValue {rest : Text} (hRest : StopsValue rest) :
    readExponentPart? rest = some (none, rest) := by
  cases rest with
  | nil => rfl
  | cons c more => rcases hRest c rfl with rfl | rfl | rfl <;> rfl

theorem takeMinus_natText (n : Nat) (rest : Text) :
    takeMinus (natText n ++ rest) = (false, natText n ++ rest) := by
  unfold takeMinus
  split
  · rename_i more hText
    -- the text would begin with a minus sign, which is no digit
    have hHead : (natText n ++ rest).head? = some '-' := by rw [hText, List.head?_cons]
    rw [List.head?_append, Option.or_of_isSome (by simp [natText])] at hHead
    exact absurd (isDigit_of_mem_natText (List.mem_of_head? hHead)) (by decide)
  · rfl

/-- **An integer** of a length that is written reads back as itself. -/
theorem readNumber?_intText {n : Int} (h : fitsText n = true) {rest : Text}
    (hRest : StopsValue rest) : readNumber? (intText n ++ rest) = some (.int n, rest) := by
  have hLength : (natText n.natAbs).length ≤ digitLimit :=
    (length_natText_le_iff (by decide)).mpr (fitsText_iff.mp h)
  have hSign : takeMinus (intText n ++ rest) = (decide (n < 0), natText n.natAbs ++ rest) := by
    cases n with
    | ofNat m => exact takeMinus_natText m rest
    | negSucc m => simp [intText, takeMinus, Int.negSucc_lt_zero]
  have hValue :
      ofSignedDigits (decide (n < 0)) ((natText n.natAbs).map fun c => c.toNat - 48) = n := by
    rw [ofSignedDigits, ofDigits_natText]
    split <;> rename_i hNegative <;> simp only [decide_eq_true_eq] at hNegative <;> omega
  rw [readNumber?, hSign]
  simp only [readWholePart?_natText _ hRest, readFractionPart?_of_stopsValue hRest,
    readExponentPart?_of_stopsValue hRest, Option.bind_eq_bind, Option.bind_some,
    List.isEmpty_nil, Option.isNone_none, Bool.and_self, if_true, List.length_map, hLength, hValue]

/-- A numeral begins with its sign or a digit, and so with no other character. -/
theorem exists_intText_eq_cons (n : Int) :
    ∃ c rest, intText n = c :: rest ∧ ∀ d : Char, d ≠ '-' → d.isDigit = false → c ≠ d := by
  obtain ⟨c, rest, hText⟩ := List.exists_cons_of_ne_nil (intText_ne_nil n)
  refine ⟨c, rest, hText, ?_⟩
  rintro d hSign hDigit rfl
  rcases mem_intText (hText ▸ List.mem_cons_self) with rfl | hIsDigit
  · exact hSign rfl
  · rw [hDigit] at hIsDigit
    cases hIsDigit

-- ---------------------------------------------------------------------------
-- Arrays and objects
-- ---------------------------------------------------------------------------

section Items

variable {α : Type} {item : Text → Option (α × Text)} {form : α → Text} {close : Char}
  {separator : Text}

/-- Whether `item` gives `x` back from its form, whatever spaces stand ahead of it. -/
def ReadsBack (item : Text → Option (α × Text)) (form : α → Text) (x : α) : Prop :=
  ∀ n rest, StopsValue rest → item (List.replicate n ' ' ++ form x ++ rest) = some (x, rest)

/-- Whether a text begins with a sign that is neither a space nor a closing bracket. -/
def BeginsItem (t : Text) : Prop :=
  ∃ c rest, t = c :: rest ∧ isSpace c = false ∧ c ≠ ']' ∧ c ≠ '}'

theorem BeginsItem.ne_nil {t : Text} (h : BeginsItem t) : t ≠ [] := by
  obtain ⟨c, rest, rfl, -⟩ := h
  exact List.cons_ne_nil c rest

theorem readItems?_join (hClose : close = ']' ∨ close = '}') (hSeparator : IsSpaced ',' separator)
    {xs : List α} (hSome : xs ≠ []) (hItems : ∀ x ∈ xs, ReadsBack item form x) {most : Nat}
    (hMost : xs.length ≤ most) (n : Nat) (rest : Text) :
    readItems? item close most
      (List.replicate n ' ' ++ join separator (xs.map form) ++ close :: rest)
        = some (xs, rest) := by
  obtain ⟨blanks, rfl⟩ := hSeparator
  have hComma : ',' ≠ close := by rcases hClose with rfl | rfl <;> decide
  have hSolid : isSpace close = false := by rcases hClose with rfl | rfl <;> rfl
  induction xs generalizing most n with
  | nil => exact absurd rfl hSome
  | cons x more ih =>
    rw [List.length_cons] at hMost
    obtain ⟨most, rfl⟩ := Nat.exists_eq_add_of_le' (show 1 ≤ most by omega)
    have hFirst := hItems x (List.mem_cons_self ..) n
    rw [readItems?]
    by_cases hMore : more = []
    · -- the last item, with the bracket behind it
      have hStops : StopsValue (close :: rest) := by
        rintro c ⟨⟩
        exact .inr hClose
      rw [hMore, List.map_singleton, join, hFirst _ hStops]
      simp [skipSpace_cons hSolid]
    · have hOthers := ih hMore (fun y hMem => hItems y (List.mem_cons_of_mem x hMem))
        (Nat.le_of_succ_le_succ hMost) blanks
      have hStops : ∀ behind, StopsValue (',' :: behind) := by
        rintro behind c ⟨⟩
        exact .inl rfl
      have hForms : more.map form ≠ [] := by simpa using hMore
      rw [List.map_cons, join_cons_of_ne_nil hForms]
      simp only [List.append_assoc, List.cons_append] at hFirst hOthers ⊢
      rw [hFirst _ (hStops _)]
      simp [skipSpace_cons (show isSpace ',' = false from rfl), hComma, hOthers]

/-- **A list** reads back if its items do. -/
theorem readBracketed?_join (hClose : close = ']' ∨ close = '}')
    (hSeparator : IsSpaced ',' separator) {xs : List α} (hItems : ∀ x ∈ xs, ReadsBack item form x)
    (hForms : ∀ x ∈ xs, BeginsItem (form x)) (rest : Text) :
    readBracketed? item close (join separator (xs.map form) ++ close :: rest)
      = some (xs, rest) := by
  cases xs with
  | nil =>
    have hSolid : isSpace close = false := by rcases hClose with rfl | rfl <;> rfl
    rw [List.map_nil, join, List.nil_append, readBracketed?, skipSpace_cons hSolid]
    exact if_pos rfl
  | cons x more =>
    have hParts : ∀ part ∈ (x :: more).map form, part ≠ [] := by
      intro part hPart
      obtain ⟨y, hMem, rfl⟩ := List.mem_map.mp hPart
      exact (hForms y hMem).ne_nil
    have hCount : (x :: more).length
        ≤ (join separator ((x :: more).map form) ++ close :: rest).length := by
      have hFit := length_parts_le_length_join separator hParts
      rw [List.length_map] at hFit
      rw [List.length_append]
      omega
    have hRead := readItems?_join hClose hSeparator (List.cons_ne_nil x more) hItems hCount 0 rest
    -- the first item keeps the bracket from being an empty one
    obtain ⟨c, tail, hForm, hSolid, hSquare, hCurly⟩ := hForms x (List.mem_cons_self ..)
    have hOpen : c ≠ close := by rcases hClose with rfl | rfl <;> assumption
    obtain ⟨behind, hText⟩ := prefix_join_cons separator (form x) (more.map form)
    rw [List.map_cons, ← hText, hForm] at hRead ⊢
    rw [readBracketed?, List.cons_append, List.cons_append, skipSpace_cons hSolid]
    simp only [if_neg hOpen]
    exact hRead

end Items

-- ---------------------------------------------------------------------------
-- Values
-- ---------------------------------------------------------------------------

section Values

variable {style : Style} (hStyle : style.Legible)

theorem isSpace_of_ne {c : Char} (h : ∀ d : Char, d ≠ '-' → d.isDigit = false → c ≠ d) :
    isSpace c = false := by
  simp [isSpace, h ' ' (by decide) (by decide), h '\t' (by decide) (by decide),
    h '\n' (by decide) (by decide), h '\r' (by decide) (by decide)]

/-- The form of a tree begins an item. -/
theorem beginsItem_write (style : Style) {v : Value} (h : v.IsTree) :
    BeginsItem (write style v) := by
  cases h with
  | null => exact ⟨'n', _, rfl, by decide⟩
  | bool b => cases b <;> exact ⟨_, _, rfl, by decide⟩
  | @int n _ =>
    obtain ⟨c, rest, hText, hOther⟩ := exists_intText_eq_cons n
    exact ⟨c, rest, hText, isSpace_of_ne hOther, hOther ']' (by decide) (by decide),
      hOther '}' (by decide) (by decide)⟩
  | text t => exact ⟨'"', _, rfl, by decide⟩
  | list => exact ⟨'[', _, rfl, by decide⟩
  | table => exact ⟨'{', _, rfl, by decide⟩

theorem readValue?_intText {n : Int} (h : fitsText n = true) (depth : Nat) {rest : Text}
    (hRest : StopsValue rest) :
    readValue? (depth + 1) (intText n ++ rest) = some (.int n, rest) := by
  obtain ⟨c, digits, hText, hOther⟩ := exists_intText_eq_cons n
  have hWord : readWord? (c :: digits ++ rest) = none := by
    simp [readWord?, words, nothingWord, truthWord, (hOther 'n' (by decide) (by decide)).symm,
      (hOther 't' (by decide) (by decide)).symm, (hOther 'f' (by decide) (by decide)).symm]
  have hNumber := readNumber?_intText h hRest
  rw [hText] at hNumber ⊢
  rw [readValue?, List.cons_append, skipSpace_cons (isSpace_of_ne hOther)]
  -- no sign of a text, an array or an object comes first, and no word either
  split
  · rename_i hCons
    exact absurd (List.cons.inj hCons).1 (hOther '"' (by decide) (by decide))
  · rename_i hCons
    exact absurd (List.cons.inj hCons).1 (hOther '[' (by decide) (by decide))
  · rename_i hCons
    exact absurd (List.cons.inj hCons).1 (hOther '{' (by decide) (by decide))
  · exact (congrArg (· <|> _) hWord).trans hNumber

/-- Spaces ahead of a value make no difference. -/
theorem readsBack_value {depth : Nat} {v : Value} (h : ∀ rest, StopsValue rest →
    readValue? (depth + 1) (write style v ++ rest) = some (v, rest)) :
    ReadsBack (readValue? (depth + 1)) (write style) v := by
  intro n rest hRest
  rw [← h rest hRest, List.append_assoc, readValue?, readValue?, skipSpace_replicate]

theorem length_write_item (style : Style) {items : List Value} {item : Value} (h : item ∈ items) :
    (write style item).length + 2 ≤ (write style (.list items)).length := by
  have hPart := length_le_length_join style.item (List.mem_map_of_mem (f := write style) h)
  rw [write_list]
  simp only [List.length_append, List.length_cons, List.length_nil]
  omega

theorem length_write_member (style : Style) {members : Table Value} {member : Text × Value}
    (h : member ∈ members) :
    (write style member.2).length + 2 ≤ (write style (.ofTable members)).length := by
  have hPart := length_le_length_join style.item (List.mem_map_of_mem
    (f := fun member => writeText member.1 ++ style.key ++ write style member.2) h)
  rw [write_ofTable]
  simp only [List.length_append, List.length_cons, List.length_nil] at hPart ⊢
  omega

include hStyle

/-- An array reads back if its items do. -/
theorem readValue?_list {items : List Value} (hTrees : ∀ item ∈ items, item.IsTree) {depth : Nat}
    (hItems : ∀ item ∈ items, ReadsBack (readValue? depth) (write style) item) (rest : Text) :
    readValue? (depth + 1) (write style (.list items) ++ rest) = some (.list items, rest) := by
  have hForms : ∀ item ∈ items, BeginsItem (write style item) := fun item hMem =>
    beginsItem_write style (hTrees item hMem)
  rw [write_list, List.append_assoc, List.cons_append, readValue?, skipSpace_cons (by rfl)]
  simp only [List.singleton_append, readBracketed?_join (.inl rfl) hStyle.item hItems hForms rest,
    Option.bind_eq_bind, Option.bind_some]

/-- A member reads back if its value does. -/
theorem readsBack_member {value : Text → Option (Value × Text)} {v : Value}
    (h : ReadsBack value (write style) v) (name : Text) :
    ReadsBack (readMember? value) (writeMember style) (.text name, v) := by
  intro n rest hRest
  obtain ⟨blanks, hKey⟩ := hStyle.key
  have hForm : writeMember style (.text name, v) ++ rest
      = '"' :: (escape name
        ++ '"' :: ':' :: (List.replicate blanks ' ' ++ write style v ++ rest)) := by
    simp [writeMember, writeText, memberName, hKey]
  rw [List.append_assoc, readMember?, skipSpace_replicate]
  simp only [hForm]
  rw [skipSpace_cons (by rfl)]
  simp only [readText?_escape, Option.bind_eq_bind, Option.bind_some]
  rw [skipSpace_cons (by rfl)]
  simp only [h blanks rest hRest, Option.bind_some]

/-- An object with different names reads back if its values do. -/
theorem readValue?_ofTable {members : Table Value} (hNames : (Table.keys members).Nodup)
    {depth : Nat}
    (hValues : ∀ member ∈ members, ReadsBack (readValue? depth) (write style) member.2)
    (rest : Text) :
    readValue? (depth + 1) (write style (.ofTable members) ++ rest)
      = some (.ofTable members, rest) := by
  let entries : Entries := members.map fun member => (.text member.1, member.2)
  have hEntries : ∀ entry ∈ entries,
      ReadsBack (readMember? (readValue? depth)) (writeMember style) entry := by
    intro entry hEntry
    obtain ⟨member, hMem, rfl⟩ := List.mem_map.mp hEntry
    exact readsBack_member hStyle (hValues member hMem) member.1
  have hForms : ∀ entry ∈ entries, BeginsItem (writeMember style entry) := fun _ _ =>
    ⟨'"', _, rfl, by decide⟩
  have hKeys : Table.keys entries = (Table.keys members).map Key.text := by
    simp [entries, Table.keys, Function.comp_def]
  have hDistinct : Table.ofEntries entries = entries :=
    Table.merge_of_pairwise (hKeys ▸ Key.pairwise_text hNames)
  have hDict : Value.ofTable members = .dict entries := rfl
  rw [hDict, write_dict, List.append_assoc, List.cons_append, readValue?, skipSpace_cons (by rfl)]
  simp only [List.singleton_append, readBracketed?_join (.inr rfl) hStyle.item hEntries hForms rest,
    Option.bind_eq_bind, Option.bind_some, hDistinct]

/-- **A tree** reads back from its form, if no more brackets lie around it than fit. -/
theorem readValue?_write {v : Value} (h : v.IsTree) {depth : Nat}
    (hDepth : (write style v).length ≤ depth + 1) {rest : Text} (hRest : StopsValue rest) :
    readValue? (depth + 1) (write style v ++ rest) = some (v, rest) := by
  induction h generalizing depth rest with
  | null => rfl
  | bool b => cases b <;> rfl
  | int hFits => exact readValue?_intText hFits depth hRest
  | text t =>
    rw [write, writeText, List.append_assoc, List.cons_append, readValue?, skipSpace_cons (by rfl)]
    simp only [List.singleton_append, readText?_escape, Option.bind_eq_bind, Option.bind_some]
  | list hItems ih =>
    refine readValue?_list hStyle hItems (fun item hMem => ?_) rest
    -- the brackets leave room for the items
    have hShort := length_write_item style hMem
    obtain ⟨depth, rfl⟩ := Nat.exists_eq_add_of_le' (show 1 ≤ depth by omega)
    exact readsBack_value fun _ hStops => ih item hMem (by omega) hStops
  | table hNames _ ih =>
    refine readValue?_ofTable hStyle hNames (fun member hMem => ?_) rest
    have hShort := length_write_member style hMem
    obtain ⟨depth, rfl⟩ := Nat.exists_eq_add_of_le' (show 1 ≤ depth by omega)
    exact readsBack_value fun _ hStops => ih member hMem (by omega) hStops

/-- **What is written for a tree** says the tree. -/
theorem read_write {v : Value} (h : v.IsTree) : read (write style v) = some v := by
  obtain ⟨c, rest, hText, -⟩ := beginsItem_write style h
  have hLength : (write style v).length = rest.length + 1 := by rw [hText, List.length_cons]
  have hEnd : StopsValue [] := by rintro c ⟨⟩
  have hRead := readValue?_write hStyle h (Nat.le_of_eq hLength) hEnd
  rw [List.append_nil] at hRead
  rw [read, hLength, hRead]
  rfl

/-- Trees with one form are one tree. -/
theorem write_injective {v w : Value} (hv : v.IsTree) (hw : w.IsTree)
    (h : write style v = write style w) : v = w := by
  have hRead := read_write hStyle hv
  rw [h, read_write hStyle hw] at hRead
  exact (Option.some.inj hRead).symm

end Values

-- ---------------------------------------------------------------------------
-- One line
-- ---------------------------------------------------------------------------

theorem space_le_of_mem_escape {t : Text} {c : Char} (h : c ∈ escape t) : 0x20 ≤ c.toNat := by
  obtain ⟨d, -, hc⟩ := List.mem_flatMap.mp h
  rcases mem_escapeChar hc with ⟨rfl, hPlain⟩ | hSign
  · simp only [isPlainChar, Bool.and_eq_true, decide_eq_true_eq] at hPlain
    exact hPlain.2
  · refine Nat.le_of_not_lt fun hLow => ?_
    have hAll : ∀ n < 0x20, isEscapeSign (Char.ofNat n) = false := by decide
    have hNone := hAll c.toNat hLow
    rw [Char.ofNat_toNat, hSign] at hNone
    cases hNone

theorem space_le_of_mem_writeText {t : Text} {c : Char} (h : c ∈ writeText t) :
    0x20 ≤ c.toNat := by
  simp only [writeText, List.mem_append, List.mem_cons, List.not_mem_nil, or_false] at h
  rcases h with (rfl | hEscape) | rfl
  · decide
  · exact space_le_of_mem_escape hEscape
  · decide

theorem space_le_of_mem_intText {n : Int} {c : Char} (h : c ∈ intText n) : 0x20 ≤ c.toNat := by
  rcases mem_intText h with rfl | hDigit
  · decide
  · have hRange := Char.isDigit_iff_toNat.mp hDigit
    have hZero : '0'.toNat = 0x30 := rfl
    omega

theorem Style.Legible.space_le_of_mem {style : Style} (h : style.Legible) {c : Char}
    (hc : c ∈ style.item ∨ c ∈ style.key) : 0x20 ≤ c.toNat := by
  obtain ⟨⟨blanks, hItem⟩, ⟨keyBlanks, hKey⟩⟩ := h
  rw [hItem, hKey, List.mem_cons, List.mem_cons, List.mem_replicate, List.mem_replicate] at hc
  rcases hc with (rfl | ⟨-, rfl⟩) | (rfl | ⟨-, rfl⟩) <;> decide

/-- Brackets around parts, which are on one line themselves. -/
theorem space_le_of_mem_bracketed {style : Style} (hStyle : style.Legible) {parts : List Text}
    (hParts : ∀ part ∈ parts, ∀ c ∈ part, 0x20 ≤ c.toNat) {left right : Char}
    (hBrackets : 0x20 ≤ left.toNat ∧ 0x20 ≤ right.toNat) {c : Char}
    (hc : c ∈ left :: join style.item parts ++ [right]) : 0x20 ≤ c.toNat := by
  rw [List.mem_append, List.mem_cons, List.mem_singleton] at hc
  rcases hc with (rfl | hJoin) | rfl
  · exact hBrackets.1
  · rcases mem_join hJoin with hSeparator | ⟨part, hPart, hMem⟩
    · exact hStyle.space_le_of_mem (.inl hSeparator)
    · exact hParts part hPart c hMem
  · exact hBrackets.2

/-- **The form of a tree** is one line: no line feed and no other character below the space is in
it, whatever its texts and names hold. -/
theorem space_le_of_mem_write {style : Style} (hStyle : style.Legible) {v : Value} (h : v.IsTree)
    {c : Char} (hc : c ∈ write style v) : 0x20 ≤ c.toNat := by
  induction h generalizing c with
  | null =>
    have hAll : nothingWord.all (0x20 ≤ ·.toNat) = true := by decide
    exact of_decide_eq_true (List.all_eq_true.mp hAll c hc)
  | bool b =>
    have hAll : ∀ b, (truthWord b).all (0x20 ≤ ·.toNat) = true := by decide
    exact of_decide_eq_true (List.all_eq_true.mp (hAll b) c hc)
  | int => exact space_le_of_mem_intText hc
  | text => exact space_le_of_mem_writeText hc
  | list _ ih =>
    rw [write_list] at hc
    refine space_le_of_mem_bracketed hStyle ?_ (by decide) hc
    intro part hPart c hMem
    obtain ⟨item, hIn, rfl⟩ := List.mem_map.mp hPart
    exact ih item hIn hMem
  | table _ _ ih =>
    rw [write_ofTable] at hc
    refine space_le_of_mem_bracketed hStyle ?_ (by decide) hc
    intro part hPart c hMem
    obtain ⟨member, hIn, rfl⟩ := List.mem_map.mp hPart
    rw [List.mem_append, List.mem_append] at hMem
    rcases hMem with (hName | hKey) | hValue
    · exact space_le_of_mem_writeText hName
    · exact hStyle.space_le_of_mem (.inr hKey)
    · exact ih member hIn hValue

end Json

end EventLoom
