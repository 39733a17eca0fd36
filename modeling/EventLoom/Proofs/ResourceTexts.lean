import EventLoom.Proofs.Encoding
import EventLoom.Proofs.ResourceFaults
import EventLoom.Registry.Memory

/-!
# The texts of resources

A registry of files and one in memory are asked for their resources in the same way, but a file
holds bytes. They are read as UTF-8 and as nothing else: the text of a file is the one that is
written with these bytes, character for character, and where there is none, there is no text. After
that all ends of lines are made line feeds, so what a file gives is what the registry in memory
would give of the same text exactly if there is no carriage return in it.

A mark at the beginning that tells the order of bytes is a character like any other and stays.

## Results

* `unifyNewlines_eq_replaceAll` — what is done to the ends of lines, in two sweeps over the text.
* `unifyNewlines_eq_self_iff` — it changes nothing but carriage returns.
* `read_eq_ok_iff` — the texts that a registry of files gives.
* `read_utf8` — what comes of a file, by its bytes.
-/

namespace EventLoom

open Text

-- ---------------------------------------------------------------------------
-- Ends of lines
-- ---------------------------------------------------------------------------

namespace Text

theorem replaceAll_cons_of_not_prefix {old new t : Text} {c : Char} (h : ¬ old <+: c :: t) :
    replaceAll old new (c :: t) = c :: replaceAll old new t := by
  rw [replaceAll, replaceFrom, if_neg (mt List.isPrefixOf_iff_prefix.mp h), ← replaceAll]

/-- First every carriage return that has a line feed behind it gives way to that, then those that
are left become line feeds themselves. -/
theorem unifyNewlines_eq_replaceAll (t : Text) :
    unifyNewlines t = replaceAll ['\r'] ['\n'] (replaceAll ['\r', '\n'] ['\n'] t) := by
  fun_induction unifyNewlines t with
  | case1 => rfl
  | case2 rest ih =>
    rw [ih]
    rfl
  | case3 rest hNext ih =>
    have hFirst : ¬ ['\r', '\n'] <+: '\r' :: rest := by
      rintro ⟨more, hMore⟩
      exact hNext more (List.cons.inj hMore).2.symm
    rw [ih, replaceAll_cons_of_not_prefix hFirst]
    rfl
  | case4 c rest hNext hc ih =>
    have hHead : ∀ old, ¬ '\r' :: old <+: c :: rest := fun old hOld =>
      hc (List.cons_prefix_cons.mp hOld).1.symm
    have hFirst : ¬ ['\r'] <+: c :: replaceAll ['\r', '\n'] ['\n'] rest := fun hOld =>
      hc (List.cons_prefix_cons.mp hOld).1.symm
    rw [ih, replaceAll_cons_of_not_prefix (hHead _), replaceAll_cons_of_not_prefix hFirst]

theorem return_not_mem_unifyNewlines (t : Text) : '\r' ∉ unifyNewlines t := by
  fun_induction unifyNewlines t with
  | case1 => exact List.not_mem_nil
  | case2 rest ih =>
    rw [List.mem_cons, not_or]
    exact ⟨by decide, ih⟩
  | case3 rest hNext ih =>
    rw [List.mem_cons, not_or]
    exact ⟨by decide, ih⟩
  | case4 c rest hNext hc ih =>
    rw [List.mem_cons, not_or]
    exact ⟨Ne.symm hc, ih⟩

theorem unifyNewlines_of_not_mem {t : Text} (h : '\r' ∉ t) : unifyNewlines t = t := by
  fun_induction unifyNewlines t with
  | case1 => rfl
  | case2 rest ih => exact absurd List.mem_cons_self h
  | case3 rest hNext ih => exact absurd List.mem_cons_self h
  | case4 c rest hNext hc ih => rw [ih (mt (List.mem_cons_of_mem c) h)]

/-- Nothing changes exactly if there is no carriage return. -/
theorem unifyNewlines_eq_self_iff {t : Text} : unifyNewlines t = t ↔ '\r' ∉ t := by
  constructor
  · intro h
    rw [← h]
    exact return_not_mem_unifyNewlines t
  · exact unifyNewlines_of_not_mem

end Text

-- ---------------------------------------------------------------------------
-- Files
-- ---------------------------------------------------------------------------

namespace Registry.Files

variable {f : Files} {path : Text} {place : Path} {bytes : List UInt8}

/-- A registry of files gives a text exactly if there is one with the bytes of the file. -/
theorem textOf_eq_ok_iff {text : Text} :
    textOf bytes = .ok text ↔ ∃ t, bytes = encode t ∧ text = unifyNewlines t := by
  rw [textOf]
  constructor
  · intro h
    split at h
    · rename_i t hText
      cases h
      exact ⟨t, decode?_eq_some_iff.mp hText, rfl⟩
    · cases h
  · rintro ⟨t, hBytes, rfl⟩
    simp only [decode?_eq_some_iff.mpr hBytes]

theorem textOf_encode (t : Text) : textOf (encode t) = .ok (unifyNewlines t) :=
  textOf_eq_ok_iff.mpr ⟨t, rfl, rfl⟩

/-- **The texts of a registry of files** are those whose bytes stand in files beneath its root, with
their ends of lines made line feeds. -/
theorem read_eq_ok_iff {text : Text} :
    f.read path = .ok text ↔
      ∃ place t, f.place path = .ok place ∧ f.root <+: place ∧ f.tree.read place = .ok (encode t)
        ∧ text = unifyNewlines t := by
  constructor
  · intro h
    obtain ⟨place, bytes, hPlace, hBeneath, hBytes, hText⟩ := read_eq_ok h
    obtain ⟨t, rfl, hLines⟩ := textOf_eq_ok_iff.mp hText
    exact ⟨place, t, hPlace, hBeneath, hBytes, hLines⟩
  · rintro ⟨place, t, hPlace, hBeneath, hBytes, rfl⟩
    rw [read_beneath hPlace hBeneath, hBytes]
    exact textOf_encode t

theorem readMemory_singleton (path t : Text) : readMemory [(.text path, .text t)] path = .ok t :=
  readMemory_put [] path t

/-- **What comes of a file beneath the root**, by its bytes. If they are the UTF-8 form of a text,
that is the text which is read, with every carriage return that has a line feed behind it, and then
every other one, made a line feed; this is what the registry in memory has under the path exactly if
there is no carriage return. A mark at the beginning stays. If they are the form of no text, none is
read. -/
theorem read_utf8 (hPlace : f.place path = .ok place) (hBeneath : f.root <+: place)
    (hBytes : f.tree.read place = .ok bytes) :
    (∀ t : Text, bytes = t.utf8Encode.data.toList →
      f.read path = .ok (replaceAll ['\r'] ['\n'] (replaceAll ['\r', '\n'] ['\n'] t))
      ∧ (f.read path = readMemory [(.text path, .text t)] path ↔ '\r' ∉ t)
      ∧ ∀ rest, t = '\uFEFF' :: rest → f.read path
        = .ok ('\uFEFF' :: replaceAll ['\r'] ['\n'] (replaceAll ['\r', '\n'] ['\n'] rest)))
    ∧ ((∀ t : Text, bytes ≠ t.utf8Encode.data.toList) → f.read path = .error .undecodable) := by
  have hRead : f.read path = textOf bytes := by
    rw [read_beneath hPlace hBeneath, hBytes]
  simp only [← encode_eq_utf8Encode, ← unifyNewlines_eq_replaceAll]
  constructor
  · rintro t rfl
    rw [hRead, textOf_encode]
    refine ⟨rfl, ?_, ?_⟩
    · rw [readMemory_singleton, Except.ok.injEq, unifyNewlines_eq_self_iff]
    · rintro rest rfl
      rfl
  · intro hNone
    rw [hRead]
    refine textOf_eq_error_iff.mpr ⟨rfl, ?_⟩
    cases hText : decode? bytes with
    | none => rfl
    | some t => exact absurd (decode?_eq_some_iff.mp hText) (hNone t)

/-- A text with characters of three and four bytes and ends of lines of two kinds, and bytes that
would be a character if they were not more than it needs. -/
def mixedTree : Tree :=
  [(["root".toList], .directory),
    (["root".toList, "orders.json".toList], .file (encode "\uFEFF€\r\n😀\r".toList)),
    (["root".toList, "long.json".toList], .file [0xe0, 0x82, 0xa9])]

theorem read_utf8_mixed :
    ∃ f, ofRoot mixedTree ["root".toList] = .ok f
      ∧ f.read "orders.json".toList = .ok "\uFEFF€\n😀\n".toList
      ∧ f.read "orders.json".toList
        ≠ readMemory [("orders.json".toList, .text "\uFEFF€\r\n😀\r".toList)] "orders.json".toList
      ∧ f.read "long.json".toList = .error .undecodable := by
  have hRoot : ofRoot mixedTree ["root".toList] = .ok ⟨mixedTree, ["root".toList]⟩ := by
    cbv
  have hPlace : ∀ name ∈ ["orders.json".toList, "long.json".toList],
      (Files.mk mixedTree ["root".toList]).place name = .ok ["root".toList, name] := by
    simp only [List.forall_mem_cons]
    refine ⟨?_, ?_, List.forall_mem_nil _⟩
    · cbv
    · cbv
  have hOrders : mixedTree.read ["root".toList, "orders.json".toList]
      = .ok (encode "\uFEFF€\r\n😀\r".toList) := by
    cbv
  have hLong : mixedTree.read ["root".toList, "long.json".toList] = .ok [0xe0, 0x82, 0xa9] := by
    cbv
  have hNone : decode? [0xe0, 0x82, 0xa9] = none := by
    cbv
  obtain ⟨hText, -⟩ := read_utf8 (hPlace _ List.mem_cons_self) (by decide) hOrders
  obtain ⟨hRead, hSame, -⟩ := hText _ (encode_eq_utf8Encode _)
  obtain ⟨-, hGarbled⟩ := read_utf8 (hPlace _ (List.mem_cons_of_mem _ List.mem_cons_self))
    (by decide) hLong
  refine ⟨_, hRoot, hRead, fun h => absurd (hSame.mp h) (by decide), hGarbled ?_⟩
  intro t hBytes
  rw [← encode_eq_utf8Encode, ← decode?_eq_some_iff, hNone] at hBytes
  cases hBytes

end Registry.Files

end EventLoom
