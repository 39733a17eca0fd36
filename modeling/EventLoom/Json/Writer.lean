import EventLoom.Value.Shown

/-!
# Writing JSON

The JSON form of a value. Non-ASCII characters are kept; a text escapes its double quotes, its
backslashes and the characters below the space. Lists and tuples both become arrays. Decimal
numbers and byte strings, which JSON does not have, are written as the texts that show them, and
the name of a member is a text whatever the key is.

The separators are a parameter (`Style`): messages have a space behind each, templates have
none.

## Results

* `escape_eq_self_iff` — a text is written without escapes exactly when it holds no double
  quote, no backslash and no character below the space.
-/

namespace EventLoom.Json

open Text Number

/-- The separators between items and behind keys. -/
structure Style where
  item : Text
  key : Text

/-- Separators with a space behind them. -/
def Style.spaced : Style := ⟨", ".toList, ": ".toList⟩

/-- Separators without spaces. -/
def Style.compact : Style := ⟨[','], [':']⟩

/-- One character inside a JSON text. -/
def escapeChar (c : Char) : Text :=
  if c = '"' then ['\\', '"']
  else if c = '\\' then ['\\', '\\']
  else if c = '\n' then ['\\', 'n']
  else if c = '\r' then ['\\', 'r']
  else if c = '\t' then ['\\', 't']
  else if c = '\x08' then ['\\', 'b']
  else if c = '\x0C' then ['\\', 'f']
  else if c.toNat < 0x20 then '\\' :: 'u' :: hexPadded 4 c.toNat
  else [c]

/-- The characters of a JSON text, without its quotes. -/
def escape (t : Text) : Text := t.flatMap escapeChar

/-- A JSON text. -/
def writeText (t : Text) : Text := '"' :: escape t ++ ['"']

/-- The word for no value. -/
def nothingWord : Text := "null".toList

/-- The word for a truth value. -/
def truthWord (b : Bool) : Text := if b then "true".toList else "false".toList

/-- The name of a member for a key. A key that is no text is written as a value would be. -/
def memberName : Key → Text
  | .null => nothingWord
  | .bool b => truthWord b
  | .int n => intText n
  | .float x => floatText .json x
  | .text t => t

mutual

/-- The JSON form of a value. -/
def write (style : Style) : Value → Text
  | .null => nothingWord
  | .bool b => truthWord b
  | .int n => intText n
  | .float x => floatText .json x
  | .decimal d => writeText d.text
  | .text t => writeText t
  | .bytes b => writeText (quotedBytes b)
  | .list items => '[' :: join style.item (writeItems style items) ++ [']']
  | .tuple items => '[' :: join style.item (writeItems style items) ++ [']']
  | .dict entries => '{' :: join style.item (writeEntries style entries) ++ ['}']

/-- The JSON forms of the items of an array. -/
def writeItems (style : Style) : List Value → List Text
  | [] => []
  | item :: rest => write style item :: writeItems style rest

/-- The JSON forms of the members of an object. -/
def writeEntries (style : Style) : List (Key × Value) → List Text
  | [] => []
  | (key, value) :: rest =>
    (writeText (memberName key) ++ style.key ++ write style value) :: writeEntries style rest

end

/-- The JSON form of one member of an object. -/
def writeMember (style : Style) (entry : Key × Value) : Text :=
  writeText (memberName entry.1) ++ style.key ++ write style entry.2

theorem write_list (style : Style) (items : List Value) :
    write style (.list items) = '[' :: join style.item (items.map (write style)) ++ [']'] := by
  have hItems : writeItems style items = items.map (write style) := by
    induction items with
    | nil => rfl
    | cons item rest ih => rw [writeItems, ih, List.map_cons]
  rw [write, hItems]

theorem write_dict (style : Style) (entries : Entries) :
    write style (.dict entries)
      = '{' :: join style.item (entries.map (writeMember style)) ++ ['}'] := by
  have hMembers : writeEntries style entries = entries.map (writeMember style) := by
    induction entries with
    | nil => rfl
    | cons entry rest ih => rw [writeEntries, ih, List.map_cons, writeMember]
  rw [write, hMembers]

theorem write_ofTable (style : Style) (members : Table Value) :
    write style (.ofTable members)
      = '{' :: join style.item (members.map fun member =>
        writeText member.1 ++ style.key ++ write style member.2) ++ ['}'] := by
  rw [Value.ofTable, write_dict, List.map_map]
  rfl

-- ---------------------------------------------------------------------------
-- Texts without escapes
-- ---------------------------------------------------------------------------

/-- Whether a character stands for itself in a JSON text. -/
def isPlainChar (c : Char) : Bool := c != '"' && c != '\\' && 0x20 ≤ c.toNat

theorem escapeChar_of_plain {c : Char} (h : isPlainChar c = true) : escapeChar c = [c] := by
  simp only [isPlainChar, Bool.and_eq_true, bne_iff_ne, decide_eq_true_eq] at h
  obtain ⟨⟨hQuote, hSlash⟩, hLow⟩ := h
  have hControl : ∀ d : Char, d.toNat < 0x20 → c ≠ d := fun d hd hEq => by
    subst hEq
    omega
  simp [escapeChar, hQuote, hSlash, hControl '\n' (by decide), hControl '\r' (by decide),
    hControl '\t' (by decide), hControl '\x08' (by decide), hControl '\x0C' (by decide),
    Nat.not_lt.2 hLow]

theorem escape_of_plain {t : Text} (h : t.all isPlainChar = true) : escape t = t := by
  induction t with
  | nil => rfl
  | cons c rest ih =>
    simp only [List.all_cons, Bool.and_eq_true] at h
    rw [escape, List.flatMap_cons, escapeChar_of_plain h.1]
    exact congrArg (c :: ·) (ih h.2)

theorem one_le_length_escapeChar (c : Char) : 1 ≤ (escapeChar c).length := by
  unfold escapeChar
  repeat' split
  all_goals simp

theorem two_le_length_escapeChar {c : Char} (h : isPlainChar c = false) :
    2 ≤ (escapeChar c).length := by
  unfold escapeChar
  repeat' split
  all_goals try simp
  -- what is left is a character that needs no escape
  simp_all [isPlainChar]

theorem length_le_escape (t : Text) : t.length ≤ (escape t).length := by
  induction t with
  | nil => simp [escape]
  | cons c rest ih =>
    have := one_le_length_escapeChar c
    simp only [escape, List.flatMap_cons, List.length_append, List.length_cons] at *
    omega

theorem escape_eq_self_iff (t : Text) : escape t = t ↔ t.all isPlainChar = true := by
  refine ⟨fun h => ?_, escape_of_plain⟩
  induction t with
  | nil => rfl
  | cons c rest ih =>
    rcases hc : isPlainChar c with _ | _
    · -- an escape makes the text longer, and nothing makes it shorter again
      have hLong := two_le_length_escapeChar hc
      have hRest := length_le_escape rest
      have := congrArg List.length h
      simp only [escape, List.flatMap_cons, List.length_append, List.length_cons] at this hRest
      omega
    · rw [escape, List.flatMap_cons, escapeChar_of_plain hc] at h
      simp only [List.cons_append, List.nil_append, List.cons.injEq, true_and] at h
      simp [hc, ih h]

end EventLoom.Json
