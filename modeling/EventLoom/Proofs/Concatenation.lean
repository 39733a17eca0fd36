import EventLoom.Proofs.Unclosed

/-!
# Templates one behind the other

Two texts that are put together compile to what each of them compiles to, with the last literal of
the first and the first literal of the second made one. The scan of the whole text knows nothing of
the seam: behind the last placeholder of the first text it goes on from its last literal into the
second text. It finds there what the scan of the second text alone finds, since the only token that
could be there besides has one brace on each side of the seam. That is excluded if not both of the
texts have an opening brace at the seam.

The induction is on the placeholders of the first text, and the seam moves on with it: what is
behind a placeholder ends as the whole text does.

## Results

* `scan_append_of_hole`, `scan_append_of_plain` — the first placeholder of two texts together.
* `compileFrom_append` — compiling two texts together is compiling the second from the place where
  the first ends, whether that succeeds or fails.
* `compile_append_eq_ok_iff` — the two templates come out one behind the other exactly if there are
  not two opening braces at the seam.
* `compile_append` — compiling is compositional, in terms of keys, literals and positions.
-/

namespace EventLoom

open Text

/-- An opening brace stands on both sides of the seam between two texts. -/
def IsBraceSeam (a b : Text) : Prop := a.getLast? = some '{' ∧ b.head? = some '{'

-- ---------------------------------------------------------------------------
-- The first placeholder
-- ---------------------------------------------------------------------------

/-- What is found in a text that has another one in front of it. -/
def Scan.behind (front : Text) : Scan → Scan
  | .plain => .plain
  | .unclosed before => .unclosed (front ++ before)
  | .hole before key after => .hole (front ++ before) key after

theorem IsBraceSeam.of_append {a after b : Text} (h : IsBraceSeam after b) :
    IsBraceSeam (a ++ after) b := by
  refine ⟨?_, h.2⟩
  rw [List.getLast?_append, h.1, Option.some_or]

/-- A placeholder of the first text is found whatever is behind that. -/
theorem scan_append_of_hole {a before key after : Text} (h : scan a = .hole before key after)
    (b : Text) : scan (a ++ b) = .hole before key (after ++ b) := by
  obtain ⟨hText, hLead, hKey⟩ := scan_eq_hole_iff.mp h
  refine scan_eq_hole_iff.mpr ⟨?_, hLead, hKey⟩
  rw [hText, List.append_assoc]

/-- A text without opening tokens can stand in front of what comes before the first opening token
of another. -/
theorem isLead_append {a before rest : Text} (ha : ¬ openToken <:+: a) (hBefore : IsLead before)
    (hSeam : ¬ IsBraceSeam a (before ++ openToken ++ rest)) : IsLead (a ++ before) := by
  have hEnd : ¬ (a.getLast? = some '{' ∧ before.head? = some '{') := by
    rintro ⟨hLast, hHead⟩
    refine hSeam ⟨hLast, ?_⟩
    rw [List.append_assoc, List.head?_append, hHead, Option.some_or]
  refine ⟨?_, ?_⟩
  · rw [openToken, pair_infix_append, not_or, not_or]
    exact ⟨ha, hBefore.1, hEnd⟩
  · intro hLast
    rw [List.getLast?_append] at hLast
    -- if nothing comes before the token, the seam is at its first brace
    cases hOwn : before.getLast? with
    | some c =>
      rw [hOwn, Option.some_or] at hLast
      exact hBefore.2 (hOwn.trans hLast)
    | none =>
      rw [hOwn, Option.none_or] at hLast
      rw [List.getLast?_eq_none_iff] at hOwn
      exact hSeam ⟨hLast, by rw [hOwn]; rfl⟩

/-- Behind a text without opening tokens the second text is scanned as if it were alone. -/
theorem scan_append_of_plain {a b : Text} (ha : scan a = .plain) (hSeam : ¬ IsBraceSeam a b) :
    scan (a ++ b) = (scan b).behind a := by
  have hOpen := scan_eq_plain_iff.mp ha
  cases hScan : scan b with
  | plain =>
    refine scan_eq_plain_iff.mpr ?_
    rw [openToken, pair_infix_append, not_or, not_or]
    exact ⟨hOpen, scan_eq_plain_iff.mp hScan, hSeam⟩
  | unclosed before =>
    obtain ⟨rest, hText, hLead, hClose⟩ := scan_eq_unclosed_iff.mp hScan
    rw [hText] at hSeam
    refine scan_eq_unclosed_iff.mpr ⟨rest, ?_, isLead_append hOpen hLead hSeam, hClose⟩
    rw [hText]
    simp only [List.append_assoc]
  | hole before key after =>
    obtain ⟨hText, hLead, hKey⟩ := scan_eq_hole_iff.mp hScan
    rw [breakAt?_eq_some (breakAt?_of_hole hScan)] at hSeam
    refine scan_eq_hole_iff.mpr ⟨?_, isLead_append hOpen hLead hSeam, hKey⟩
    rw [hText]
    simp only [List.append_assoc]

namespace Template

-- ---------------------------------------------------------------------------
-- One template behind another
-- ---------------------------------------------------------------------------

/-- A literal and some placeholders, and a template behind them. -/
def appendHoles (u : Template) : Text → List Hole → Template
  | lead, [] => ⟨lead ++ u.lead, u.holes⟩
  | lead, hole :: rest => prepend lead hole.key (appendHoles u hole.tail rest)

/-- The template with another one behind it. The last literal of the one and the first literal of
the other become one. -/
def append (t u : Template) : Template := appendHoles u t.lead t.holes

theorem keys_append (t u : Template) : (t.append u).keys = t.keys ++ u.keys := by
  obtain ⟨lead, holes⟩ := t
  induction holes generalizing lead with
  | nil => rfl
  | cons hole rest ih => exact congrArg (hole.key :: ·) (ih hole.tail)

theorem literals_append (t u : Template) :
    ∃ front last, t.literals = front ++ [last]
      ∧ (t.append u).literals = front ++ (last ++ u.lead) :: u.holes.map HoleOf.tail := by
  obtain ⟨lead, holes⟩ := t
  induction holes generalizing lead with
  | nil => exact ⟨[], lead, rfl, rfl⟩
  | cons hole rest ih =>
    obtain ⟨front, last, hLiterals, hAppend⟩ := ih hole.tail
    exact ⟨lead :: front, last, congrArg (lead :: ·) hLiterals, congrArg (lead :: ·) hAppend⟩

-- ---------------------------------------------------------------------------
-- Compiling one text behind another
-- ---------------------------------------------------------------------------

/-- Behind a text without opening tokens, compiling makes that text a part of the first literal. -/
theorem compileFrom_append_of_plain {a b : Text} (ha : scan a = .plain)
    (hSeam : ¬ IsBraceSeam a b) (offset : Nat) :
    compileFrom offset (a ++ b)
      = (compileFrom (offset + a.length) b).map (append ⟨a, []⟩) := by
  have hScan := scan_append_of_plain ha hSeam
  cases hb : scan b with
  | plain =>
    rw [hb] at hScan
    rw [compileFrom_of_plain hScan, compileFrom_of_plain hb]
    rfl
  | unclosed before =>
    rw [hb] at hScan
    rw [compileFrom_of_unclosed hScan, compileFrom_of_unclosed hb, List.length_append,
      Nat.add_assoc]
    rfl
  | hole before key after =>
    rw [hb] at hScan
    rw [compileFrom_of_hole hScan, compileFrom_of_hole hb, List.length_append, ← Nat.add_assoc]
    cases compileFrom (offset + a.length + before.length + (placeholder key).length) after <;> rfl

/-- **Compiling goes on behind the seam.** If the first of two texts compiles, compiling both
together gives what compiling the second gives from the place where the first ends, with the
first template in front of it. -/
theorem compileFrom_append {offset : Nat} {a b : Text} {t : Template}
    (ha : compileFrom offset a = .ok t) (hSeam : ¬ IsBraceSeam a b) :
    compileFrom offset (a ++ b) = (compileFrom (offset + a.length) b).map t.append := by
  fun_induction compileFrom offset a generalizing t with
  | case1 offset a hScan =>
    cases ha
    exact compileFrom_append_of_plain hScan hSeam offset
  | case2 => cases ha
  | case3 => cases ha
  | case4 offset a before key after hScan hLength rest hRest ih =>
    cases ha
    have hText := scan_eq_hole hScan
    have hPlace : offset + before.length + (placeholder key).length + after.length
        = offset + a.length := by
      rw [hText, List.length_append, List.length_append]
      omega
    have hAfter := ih hRest fun h => hSeam (hText ▸ h.of_append)
    rw [compileFrom_of_hole (scan_append_of_hole hScan b), hAfter, hPlace]
    cases compileFrom (offset + a.length) b <;> rfl

/-- Where a text begins does not matter to what it compiles to, and moves the position of a fault
along. -/
theorem compileFrom_eq_ok_iff {offset : Nat} {t : Text} {result : Template} :
    compileFrom offset t = .ok result ↔ compile t = .ok result := by
  have hFrom : ∀ {offset : Nat}, compileFrom offset t = .ok result → ∀ other : Nat,
      compileFrom other t = .ok result := by
    intro offset h other
    obtain ⟨u, hCompile, hLiterals, hKeys⟩ :=
      compileFrom_interleave (canonical_of_compileFrom h) other
    rw [interleave_literals_keys, written_compileFrom h] at hCompile
    rw [hCompile, ext_of_literals hLiterals hKeys]
  exact ⟨fun h => hFrom h 0, fun h => hFrom h offset⟩

/-- At a seam between two opening braces, the literal that the two templates share would hold an
opening token, or end as the one behind it begins. -/
theorem not_isBraceSeam_of_canonical {t u : Template}
    (h : Canonical (t.append u).literals (t.append u).keys) :
    ¬ IsBraceSeam t.written u.written := by
  obtain ⟨lead, holes⟩ := t
  induction holes generalizing lead with
  | nil =>
    rintro ⟨hLast, hHead⟩
    have hLead : lead.getLast? = some '{' := by simpa [written] using hLast
    obtain ⟨first, behind⟩ := u
    have hJoined : ¬ openToken <:+: lead ++ first := h.literals_unopened _ (List.mem_cons_self ..)
    rw [openToken, pair_infix_append, not_or, not_or] at hJoined
    cases first with
    | cons c rest =>
      have hFirst : (c :: rest).head? = some '{' := by simpa [written] using hHead
      exact hJoined.2.2 ⟨hLead, hFirst⟩
    | nil =>
      -- the second text begins with a placeholder, so the literal has one behind it
      cases behind with
      | nil => simp [written] at hHead
      | cons hole rest =>
        have hEnd : (lead ++ []).getLast? ≠ some '{' := (canonical_cons_iff.mp h).1.2
        rw [List.append_nil] at hEnd
        exact hEnd hLead
  | cons hole rest ih =>
    rintro ⟨hLast, hHead⟩
    have hText : written ⟨lead, hole :: rest⟩
        = (lead ++ openToken ++ hole.key ++ ['}']) ++ ['}'] ++ written ⟨hole.tail, rest⟩ := by
      simp [written, placeholder, closeToken]
    refine ih hole.tail (canonical_cons_iff.mp h).2.2 ⟨?_, hHead⟩
    -- a placeholder ends with a closing brace, so the opening one comes behind it
    rw [hText, List.getLast?_append] at hLast
    cases hRest : (written ⟨hole.tail, rest⟩).getLast? with
    | some c => rwa [hRest, Option.some_or] at hLast
    | none => simp [hRest] at hLast

/-- **The seam.** Two texts that compile, put together, compile to the one template behind the other
exactly if there are not two opening braces at the seam. -/
theorem compile_append_eq_ok_iff {a b : Text} {t u : Template} (ha : compile a = .ok t)
    (hb : compile b = .ok u) :
    compile (a ++ b) = .ok (t.append u) ↔ ¬ IsBraceSeam a b := by
  constructor
  · intro hWhole
    rw [← written_compile ha, ← written_compile hb]
    exact not_isBraceSeam_of_canonical (canonical_of_compile hWhole)
  · intro hSeam
    rw [compile, compileFrom_append ha hSeam, Nat.zero_add, compileFrom_eq_ok_iff.mpr hb]
    rfl

/-- **Compiling is compositional.** Let the first of two texts compile, and let there not be an
opening brace on both sides of the seam. If the second text compiles, both together do: the keys are
those of the first and then those of the second, and so are the literals, except that the last one
of the first and the first one of the second are joined. If the second text does not compile, both
together fail at the same token, which is further on by the length of the first. -/
theorem compile_append {a b : Text} {t : Template} (ha : compile a = .ok t)
    (hSeam : ¬ (a.getLast? = some '{' ∧ b.head? = some '{')) :
    (∀ u, compile b = .ok u →
      ∃ w, compile (a ++ b) = .ok w ∧ w.keys = t.keys ++ u.keys
        ∧ ∃ front last first back, t.literals = front ++ [last] ∧ u.literals = first :: back
          ∧ w.literals = front ++ (last ++ first) :: back)
    ∧ ∀ fault, compile b = .error fault →
      ∃ p, fault = .malformedTemplate p
        ∧ compile (a ++ b) = .error (.malformedTemplate (a.length + p)) := by
  refine ⟨?_, ?_⟩
  · intro u hb
    obtain ⟨front, last, hLiterals, hAppend⟩ := literals_append t u
    exact ⟨t.append u, (compile_append_eq_ok_iff ha hb).mpr hSeam, keys_append t u, front, last,
      u.lead, _, hLiterals, rfl, hAppend⟩
  · intro fault hb
    obtain ⟨p, rfl, hFirst⟩ := compile_eq_error_iff.mp hb
    refine ⟨p, rfl, ?_⟩
    rw [compile, compileFrom_append ha hSeam, Nat.zero_add,
      compileFrom_eq_error_iff.mpr ⟨p, rfl, hFirst⟩]
    rfl

/-- A brace at the end of the first text stays in its literal, and a token of the second text that
nothing closes is reported where it stands in the whole. -/
theorem compile_append_unclosed :
    compile "\x7b\x7bk\x7d\x7d\x7b".toList = .ok ⟨[], [⟨['k'], ['{']⟩]⟩
      ∧ compile "a\x7b\x7b".toList = .error (.malformedTemplate 1)
      ∧ compile "\x7b\x7bk\x7d\x7d\x7ba\x7b\x7b".toList = .error (.malformedTemplate 7) := by
  have hFirst : compile "\x7b\x7bk\x7d\x7d\x7b".toList = .ok ⟨[], [⟨['k'], ['{']⟩]⟩ :=
    compile_written (t := ⟨[], [⟨['k'], ['{']⟩]⟩)
      ⟨rfl, by decide, by decide, by decide, by decide⟩
  have hSecond : compile "a\x7b\x7b".toList = .error (.malformedTemplate 1) := by
    have hScan : scan "a\x7b\x7b".toList = .unclosed ['a'] := by decide
    exact compileFrom_of_unclosed hScan
  obtain ⟨-, hFails⟩ := compile_append hFirst
    (show ¬ (_ ∧ "a\x7b\x7b".toList.head? = some '{') by decide)
  obtain ⟨p, hPlace, hWhole⟩ := hFails _ hSecond
  cases hPlace
  exact ⟨hFirst, hSecond, hWhole⟩

end Template

end EventLoom
