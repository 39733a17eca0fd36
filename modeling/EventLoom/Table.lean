import EventLoom.Text.Basic

/-!
# Ordered tables

A table maps keys to values and keeps the order in which its keys came. Writing a key again
replaces its value and leaves the key as it was first written, in its place. Keys are the same
when `==` says so, which need not mean that they look alike.

## Results

* `get?_put` — what a table holds after a write.
* `keys_put_of_contains` — writing a key again moves nothing.
* `merge_of_pairwise` — entries with keys that are all different come one behind the other.
-/

namespace EventLoom

/-- A table from texts to values, in the order of its entries. -/
abbrev Table (α : Type) := List (Text × α)

namespace Table

variable {κ α : Type} [BEq κ]

/-- Write one entry. -/
def put (key : κ) (value : α) : List (κ × α) → List (κ × α)
  | [] => [(key, value)]
  | entry :: rest =>
    if entry.1 == key then (entry.1, value) :: rest else entry :: put key value rest

/-- The value under `key`. -/
def get? (t : List (κ × α)) (key : κ) : Option α := t.lookup key

/-- The keys in order. -/
def keys {κ : Type} (t : List (κ × α)) : List κ := t.map Prod.fst

/-- Write the entries of `u` into `t`, one after the other. -/
def merge (t u : List (κ × α)) : List (κ × α) :=
  u.foldl (fun acc entry => put entry.1 entry.2 acc) t

/-- The table that results from writing all `entries`; of two entries with one key the later
gives the value and the earlier the place. -/
def ofEntries (entries : List (κ × α)) : List (κ × α) := merge [] entries

-- ---------------------------------------------------------------------------
-- What a write does
-- ---------------------------------------------------------------------------

@[simp] theorem get?_nil (key : κ) : get? ([] : List (κ × α)) key = none := rfl

theorem get?_cons [PartialEquivBEq κ] (entry : κ × α) (rest : List (κ × α)) (key : κ) :
    get? (entry :: rest) key = if entry.1 == key then some entry.2 else get? rest key := by
  obtain ⟨k, v⟩ := entry
  rcases h : k == key with _ | _
  · have hKey : (key == k) = false := by rw [BEq.comm, h]
    simp [get?, List.lookup_cons, hKey]
  · have hKey : (key == k) = true := BEq.symm h
    simp [get?, List.lookup_cons, hKey]

theorem get?_put [EquivBEq κ] (t : List (κ × α)) (key other : κ) (value : α) :
    get? (put key value t) other = if key == other then some value else get? t other := by
  induction t with
  | nil => simp [put, get?_cons]
  | cons entry rest ih =>
    simp only [put]
    split
    · rename_i hEntry
      -- the two keys are the same to every third one
      have hSame : (entry.1 == other) = (key == other) := BEq.congr_left hEntry
      simp only [get?_cons, hSame]
      split <;> rfl
    · rename_i hEntry
      rw [get?_cons, get?_cons, ih]
      split
      · rename_i hOther
        have hNe : (key == other) = false := by
          rcases hKey : key == other with _ | _
          · rfl
          · exact absurd (BEq.trans hOther (BEq.symm hKey)) (by simpa using hEntry)
        simp [hNe]
      · rfl

theorem keys_put_of_contains {t : List (κ × α)} {key : κ}
    (h : (keys t).any (· == key) = true) (value : α) : keys (put key value t) = keys t := by
  induction t with
  | nil => simp [keys] at h
  | cons entry rest ih =>
    simp only [put]
    split
    · simp [keys]
    · rename_i hEntry
      have hRest : (keys rest).any (· == key) = true := by
        simpa [keys, hEntry] using h
      have := ih hRest
      simp_all [keys]

theorem put_of_not_contains {t : List (κ × α)} {key : κ}
    (h : (keys t).any (· == key) = false) (value : α) : put key value t = t ++ [(key, value)] := by
  induction t with
  | nil => rfl
  | cons entry rest ih =>
    simp only [keys, List.map_cons, List.any_cons, Bool.or_eq_false_iff] at h
    have := ih h.2
    simp_all [put]

theorem merge_of_pairwise {t u : List (κ × α)}
    (h : (keys (t ++ u)).Pairwise fun a b => (a == b) = false) : merge t u = t ++ u := by
  induction u generalizing t with
  | nil => exact (List.append_nil t).symm
  | cons entry rest ih =>
    -- the first entry goes behind the table, and the others come behind that
    have hShift : t ++ entry :: rest = t ++ [entry] ++ rest := by simp
    have hFresh : (keys t).any (· == entry.1) = false := by
      rw [keys, List.map_append, List.pairwise_append] at h
      rw [List.any_eq_false]
      intro key hKey
      simp [h.2.2 key hKey entry.1 (List.mem_cons_self ..)]
    rw [hShift] at h ⊢
    rw [← ih h, ← put_of_not_contains hFresh]
    rfl

end Table

end EventLoom
