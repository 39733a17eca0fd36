import EventLoom.Proofs.DefaultTemplate
import Mathlib.Data.List.Nodup

/-!
# Which streams are turned down, and why

What acceptance asks of the names of a stream's attributes can be said without the keys that the
attributes answer to, and without writing any JSON. A name can be a key if it is made of the right
characters (`IsPlainName`). Two attributes answer to one key exactly if one of them has the key of
the other as its name: the keys of two attributes cannot be the same, since the leads of two groups
already differ in their first letter, and no name is the same as itself behind a lead
(`nodup_keys_iff`).

A declaration that is turned down is turned down for one reason, which the order of the checks picks
(`Refused`). An attribute is to blame if it is the first one that does not pass behind those before
it, and a key only if all attributes pass.

## Results

* `isPlaceholderSafe_iff_plain` — the characters of a name that can be a key.
* `nodup_keys_iff` — when no two attributes answer to one key.
* `acceptNames_eq_error_iff` — the first offence in a group.
* `firstRepeated?_eq_some_iff` — the first key that comes a second time.
* `accept_outcome` — which declarations are accepted, and the fault of each other one.
-/

namespace EventLoom

open Text

-- ---------------------------------------------------------------------------
-- Names by their characters
-- ---------------------------------------------------------------------------

/-- The name holds no placeholder token, does not end as the closing one begins, and JSON writes
each of its characters as it is. -/
structure IsPlainName (name : Text) : Prop where
  no_open : ¬ openToken <:+: name
  no_close : ¬ closeToken <:+: name
  last_ne : name.getLast? ≠ some '}'
  chars : ∀ c ∈ name, c ≠ '"' ∧ c ≠ '\\' ∧ 0x20 ≤ c.toNat

theorem isPlaceholderSafe_iff_plain {name : Text} :
    isPlaceholderSafe name = true ↔ IsPlainName name := by
  have hChars : name.all Json.isPlainChar = true ↔
      ∀ c ∈ name, c ≠ '"' ∧ c ≠ '\\' ∧ 0x20 ≤ c.toNat := by
    simp [Json.isPlainChar, and_assoc]
  rw [isPlaceholderSafe_iff, hChars, IsKey]
  constructor
  · rintro ⟨hOpen, ⟨hClose, hLast⟩, hPlain⟩
    exact ⟨hOpen, hClose, hLast, hPlain⟩
  · rintro ⟨hOpen, hClose, hLast, hPlain⟩
    exact ⟨hOpen, ⟨hClose, hLast⟩, hPlain⟩

-- ---------------------------------------------------------------------------
-- Keys
-- ---------------------------------------------------------------------------

namespace Stream

variable (s : Stream)

/-- The names of all attributes. -/
def allNames : List Text := s.metadata ++ s.correlation ++ s.payload

/-- Every attribute gives its key, and those that can be called by their names alone give these. -/
theorem map_fst_keysOf (attributes : List Attribute) :
    (keysOf attributes).map Prod.fst = attributes.map Attribute.key
      ++ (attributes.filter fun a => a.group.hasBareKey).map Attribute.name := by
  have hSplit : (keysOf attributes).map Prod.fst
      = attributes.zipIdx.map (Attribute.key ∘ Prod.fst)
        ++ (attributes.zipIdx.filter ((fun a => a.group.hasBareKey) ∘ Prod.fst)).map
          (Attribute.name ∘ Prod.fst) := by
    rw [keysOf, List.map_append, List.map_map, List.map_map]
    rfl
  rw [hSplit, ← List.map_map, ← List.map_map, ← List.filter_map, List.zipIdx_map_fst]

theorem map_fst_placeholderKeys :
    s.placeholderKeys.map Prod.fst
      = s.metadata.map ("meta_".toList ++ ·) ++ s.correlation.map ("correlation_".toList ++ ·)
        ++ s.payload ++ (s.metadata ++ s.correlation) := by
  have hFilter : s.attributes.filter (fun a => a.group.hasBareKey)
      = s.metadata.map (⟨·, .metadata⟩) ++ s.correlation.map (⟨·, .correlation⟩) := by
    rw [attributes_eq, List.filter_append, List.filter_eq_self.mpr, List.filter_eq_nil_iff.mpr,
      List.append_nil]
    · simp [Group.hasBareKey]
    · intro a ha
      rcases List.mem_append.mp ha with ha | ha
      · obtain ⟨name, -, rfl⟩ := List.mem_map.mp ha
        rfl
      · obtain ⟨name, -, rfl⟩ := List.mem_map.mp ha
        rfl
  have hOwn : s.attributes.map Attribute.key
      = s.metadata.map ("meta_".toList ++ ·) ++ s.correlation.map ("correlation_".toList ++ ·)
        ++ s.payload := by
    rw [attributes_eq, List.map_append, List.map_append, List.map_map, List.map_map, List.map_map]
    exact congrArg _ (List.map_id s.payload)
  rw [placeholderKeys, map_fst_keysOf, hFilter, hOwn, List.map_append, List.map_map, List.map_map]
  exact congrArg _ (congrArg₂ _ (List.map_id s.metadata) (List.map_id s.correlation))

variable {s}

/-- **No two attributes answer to one key** exactly if none has the key of another one as its
name. -/
theorem nodup_keys_iff (hNames : s.allNames.Nodup) :
    (s.placeholderKeys.map Prod.fst).Nodup ↔
      (∀ x ∈ s.metadata, "meta_".toList ++ x ∉ s.allNames)
      ∧ ∀ y ∈ s.correlation, "correlation_".toList ++ y ∉ s.allNames := by
  have hPerm : (s.placeholderKeys.map Prod.fst).Perm
      ((s.metadata.map ("meta_".toList ++ ·) ++ s.correlation.map ("correlation_".toList ++ ·))
        ++ s.allNames) := by
    rw [map_fst_placeholderKeys, List.append_assoc, allNames]
    exact List.Perm.append_left _ List.perm_append_comm
  have hLeads : (s.metadata.map ("meta_".toList ++ ·)
      ++ s.correlation.map ("correlation_".toList ++ ·)).Nodup := by
    obtain ⟨hBoth, -, -⟩ := List.nodup_append.mp hNames
    obtain ⟨hMetadata, hCorrelation, -⟩ := List.nodup_append.mp hBoth
    have hBehind : ∀ lead : Text, Function.Injective (lead ++ ·) :=
      fun lead _ _ hSame => List.append_cancel_left hSame
    refine List.nodup_append.mpr
      ⟨hMetadata.map (hBehind _), hCorrelation.map (hBehind _), ?_⟩
    intro key hKey other hOther hSame
    obtain ⟨x, -, rfl⟩ := List.mem_map.mp hKey
    obtain ⟨y, -, rfl⟩ := List.mem_map.mp hOther
    -- the leads begin with different letters
    cases hSame
  rw [hPerm.nodup_iff, List.nodup_append]
  constructor
  · rintro ⟨-, -, hApart⟩
    constructor
    · intro x hx hName
      exact hApart _ (List.mem_append_left _ (List.mem_map_of_mem hx)) _ hName rfl
    · intro y hy hName
      exact hApart _ (List.mem_append_right _ (List.mem_map_of_mem hy)) _ hName rfl
  · rintro ⟨hMetadata, hCorrelation⟩
    refine ⟨hLeads, hNames, ?_⟩
    rintro key hKey name hName rfl
    rcases List.mem_append.mp hKey with hKey | hKey
    · obtain ⟨x, hx, rfl⟩ := List.mem_map.mp hKey
      exact hMetadata x hx hName
    · obtain ⟨y, hy, rfl⟩ := List.mem_map.mp hKey
      exact hCorrelation y hy hName

end Stream

/-- **The first repeated key** has come before, and no other one in front of it has. -/
theorem firstRepeated?_eq_some_iff {seen list : List Text} {key : Text} :
    firstRepeated? seen list = some key ↔
      ∃ front back, list = front ++ key :: back ∧ front.Nodup ∧ (∀ t ∈ front, t ∉ seen)
        ∧ (key ∈ front ∨ key ∈ seen) := by
  induction list generalizing seen with
  | nil => simp [firstRepeated?]
  | cons t rest ih =>
    rw [firstRepeated?]
    by_cases hSeen : t ∈ seen
    · rw [if_pos hSeen]
      constructor
      · intro h
        cases h
        exact ⟨[], rest, rfl, List.nodup_nil, List.forall_mem_nil _, .inr hSeen⟩
      · rintro ⟨front, back, hList, -, hFront, -⟩
        cases front with
        | nil =>
          cases hList
          rfl
        | cons first more =>
          cases hList
          exact absurd hSeen (hFront t List.mem_cons_self)
    · rw [if_neg hSeen, ih]
      constructor
      · rintro ⟨front, back, rfl, hNodup, hFront, hKey⟩
        have hFresh : t ∉ front := fun hIn => hFront t hIn List.mem_cons_self
        refine ⟨t :: front, back, rfl, List.nodup_cons.mpr ⟨hFresh, hNodup⟩, ?_, ?_⟩
        · exact List.forall_mem_cons.mpr
            ⟨hSeen, fun u hu hIn => hFront u hu (List.mem_cons_of_mem _ hIn)⟩
        · rcases hKey with hIn | hIn
          · exact .inl (List.mem_cons_of_mem _ hIn)
          · rcases List.mem_cons.mp hIn with rfl | hIn
            · exact .inl List.mem_cons_self
            · exact .inr hIn
      · rintro ⟨front, back, hList, hNodup, hFront, hKey⟩
        cases front with
        | nil =>
          cases hList
          exact absurd (hKey.resolve_left List.not_mem_nil) hSeen
        | cons first more =>
          cases hList
          obtain ⟨hFresh, hNodup⟩ := List.nodup_cons.mp hNodup
          refine ⟨more, back, rfl, hNodup, ?_, ?_⟩
          · intro u hu hIn
            rcases List.mem_cons.mp hIn with rfl | hIn
            · exact hFresh hu
            · exact hFront u (List.mem_cons_of_mem _ hu) hIn
          · rcases hKey with hIn | hIn
            · rcases List.mem_cons.mp hIn with rfl | hIn
              · exact .inr List.mem_cons_self
              · exact .inl hIn
            · exact .inr (List.mem_cons_of_mem _ hIn)

-- ---------------------------------------------------------------------------
-- Attributes
-- ---------------------------------------------------------------------------

/-- The attribute may be listed under the group, as far as it alone is concerned. -/
structure Fits (a : Attribute) (listed : Group) : Prop where
  group_eq : a.group = listed
  named : a.name ≠ []
  plain : IsPlainName a.name

/-- What is wrong with an attribute that is listed under a group behind the names `seen`. Of several
things it is the first one in this order. -/
inductive Offends (streamId : Text) (seen : List Text) (a : Attribute) (listed : Group) :
    Fault → Prop where
  | misplaced (hGroup : a.group ≠ listed) :
      Offends streamId seen a listed (.misplacedAttribute a.name a.group listed streamId)
  | nameless (hGroup : a.group = listed) (hName : a.name = []) :
      Offends streamId seen a listed (.namelessAttribute streamId)
  | unusable (hGroup : a.group = listed) (hName : a.name ≠ []) (hPlain : ¬ IsPlainName a.name) :
      Offends streamId seen a listed (.unsafeAttribute (.text a.name) streamId)
  | repeated (hFits : Fits a listed) (hSeen : a.name ∈ seen) :
      Offends streamId seen a listed (.repeatedAttribute a.name streamId)

/-- The attribute as it is declared. -/
def Attribute.declared (a : Attribute) : Declared := ⟨.text a.name, a.group⟩

section One

variable {streamId : Text} {seen : List Text} {a : Attribute} {listed : Group}

theorem acceptName_eq_ok_iff_fits {name : Text} :
    acceptName streamId listed seen a.declared = .ok name ↔
      name = a.name ∧ Fits a listed ∧ a.name ∉ seen := by
  rw [acceptName_eq_ok_iff, IsUsableName, isPlaceholderSafe_iff_plain]
  constructor
  · rintro ⟨hSame, ⟨hNamed, hPlain⟩, hSeen⟩
    cases hSame
    exact ⟨rfl, ⟨rfl, hNamed, hPlain⟩, hSeen⟩
  · rintro ⟨rfl, ⟨rfl, hNamed, hPlain⟩, hSeen⟩
    exact ⟨rfl, ⟨hNamed, hPlain⟩, hSeen⟩

/-- The checks in their order, without the values in which a declaration may hold a name. -/
theorem acceptName_declared :
    acceptName streamId listed seen a.declared =
      if a.group ≠ listed then .error (.misplacedAttribute a.name a.group listed streamId)
      else if a.name = [] then .error (.namelessAttribute streamId)
      else if isPlaceholderSafe a.name = false then
        .error (.unsafeAttribute (.text a.name) streamId)
      else if a.name ∈ seen then .error (.repeatedAttribute a.name streamId)
      else .ok a.name := by
  have hNothing : (!(Value.text a.name).isTruthy) = true ↔ a.name = [] := by
    simp [Value.isTruthy]
  have hText : (Value.text a.name).plain = a.name := rfl
  simp only [acceptName, Attribute.declared, hNothing, hText, keyName_text, ite_not]
  cases isPlaceholderSafe a.name with
  | false => rfl
  | true => simp [bind, Except.bind]

/-- **What one attribute is turned down for.** -/
theorem acceptName_eq_error_iff {fault : Fault} :
    acceptName streamId listed seen a.declared = .error fault ↔
      Offends streamId seen a listed fault := by
  rw [acceptName_declared]
  constructor
  · intro h
    split at h
    · rename_i hGroup
      cases h
      exact .misplaced hGroup
    · rename_i hGroup
      rw [not_not] at hGroup
      split at h
      · rename_i hName
        cases h
        exact .nameless hGroup hName
      · rename_i hName
        split at h
        · rename_i hUnsafe
          cases h
          exact .unusable hGroup hName (by rw [← isPlaceholderSafe_iff_plain, hUnsafe]; exact nofun)
        · rename_i hSafe
          rw [Bool.not_eq_false] at hSafe
          split at h
          · rename_i hSeen
            cases h
            exact .repeated ⟨hGroup, hName, isPlaceholderSafe_iff_plain.mp hSafe⟩ hSeen
          · cases h
  · intro h
    cases h with
    | misplaced hGroup => rw [if_pos hGroup]
    | nameless hGroup hName => rw [if_neg (not_not.mpr hGroup), if_pos hName]
    | unusable hGroup hName hPlain =>
      rw [← isPlaceholderSafe_iff_plain, Bool.not_eq_true] at hPlain
      rw [if_neg (not_not.mpr hGroup), if_neg hName, if_pos hPlain]
    | repeated hFits hSeen =>
      have hSafe := isPlaceholderSafe_iff_plain.mpr hFits.plain
      rw [if_neg (not_not.mpr hFits.group_eq), if_neg hFits.named, hSafe,
        if_neg Bool.noConfusion, if_pos hSeen]

end One

-- ---------------------------------------------------------------------------
-- The layout
-- ---------------------------------------------------------------------------

/-- The names of attributes, each of which comes with the group that it is listed under. -/
def namesIn (entries : List (Attribute × Group)) : List Text := entries.map (·.1.name)

/-- All attributes fit, and no two have the same name. -/
structure AllPass (entries : List (Attribute × Group)) : Prop where
  fits : ∀ entry ∈ entries, Fits entry.1 entry.2
  distinct : (namesIn entries).Nodup

/-- The first offence behind the attributes `before`: everything that comes before it passes. -/
def FirstOffence (streamId : Text) (before entries : List (Attribute × Group)) (fault : Fault) :
    Prop :=
  ∃ front entry back, entries = front ++ entry :: back ∧ AllPass (before ++ front)
    ∧ Offends streamId (namesIn (before ++ front)) entry.1 entry.2 fault

section Layout

variable {streamId : Text} {before entries more : List (Attribute × Group)} {fault : Fault}

theorem namesIn_append : namesIn (before ++ entries) = namesIn before ++ namesIn entries :=
  List.map_append

theorem mem_namesIn_nil (t : Text) : t ∈ [] ↔ t ∈ namesIn [] := Iff.rfl

theorem allPass_nil : AllPass [] := ⟨List.forall_mem_nil _, List.nodup_nil⟩

theorem AllPass.of_append (h : AllPass (before ++ entries)) : AllPass before := by
  obtain ⟨hFits, hDistinct⟩ := h
  rw [namesIn_append, List.nodup_append] at hDistinct
  exact ⟨(List.forall_mem_append.mp hFits).1, hDistinct.1⟩

/-- One more attribute passes if it fits and its name has not come before. -/
theorem allPass_append_singleton {entry : Attribute × Group} :
    AllPass (before ++ [entry]) ↔
      AllPass before ∧ Fits entry.1 entry.2 ∧ entry.1.name ∉ namesIn before := by
  constructor
  · intro h
    have hFits := (List.forall_mem_append.mp h.fits).2
    have hDistinct := h.distinct
    rw [namesIn_append, List.nodup_append] at hDistinct
    refine ⟨h.of_append, hFits entry (List.mem_singleton_self _), ?_⟩
    exact fun hIn => hDistinct.2.2 _ hIn _ (List.mem_singleton_self _) rfl
  · rintro ⟨hBefore, hFits, hFresh⟩
    refine ⟨List.forall_mem_append.mpr ⟨hBefore.fits, List.forall_mem_singleton.mpr hFits⟩, ?_⟩
    rw [namesIn_append, List.nodup_append]
    refine ⟨hBefore.distinct, List.nodup_singleton _, ?_⟩
    rintro name hName other hOther rfl
    rw [List.mem_singleton.mp hOther] at hName
    exact hFresh hName

theorem FirstOffence.allPass (h : FirstOffence streamId before entries fault) : AllPass before := by
  obtain ⟨front, entry, back, -, hPass, -⟩ := h
  exact hPass.of_append

theorem firstOffence_nil : ¬ FirstOffence streamId before [] fault := by
  rintro ⟨front, entry, back, hEntries, -⟩
  cases front <;> cases hEntries

theorem firstOffence_singleton {entry : Attribute × Group} :
    FirstOffence streamId before [entry] fault ↔
      AllPass before ∧ Offends streamId (namesIn before) entry.1 entry.2 fault := by
  constructor
  · rintro ⟨front, other, back, hEntries, hPass, hOffends⟩
    cases front with
    | nil =>
      cases hEntries
      rw [List.append_nil] at hPass hOffends
      exact ⟨hPass, hOffends⟩
    | cons first rest =>
      cases rest <;> cases hEntries
  · rintro ⟨hPass, hOffends⟩
    refine ⟨[], entry, [], rfl, ?_⟩
    rw [List.append_nil]
    exact ⟨hPass, hOffends⟩

/-- The first offence is among the first entries, or comes behind all of them. -/
theorem firstOffence_append :
    FirstOffence streamId before (entries ++ more) fault ↔
      FirstOffence streamId before entries fault
        ∨ FirstOffence streamId (before ++ entries) more fault := by
  constructor
  · rintro ⟨front, entry, back, hEntries, hPass, hOffends⟩
    rcases List.append_eq_append_iff.mp hEntries with ⟨rest, rfl, rfl⟩ | ⟨rest, rfl, hRest⟩
    · rw [← List.append_assoc] at hPass hOffends
      exact .inr ⟨rest, entry, back, rfl, hPass, hOffends⟩
    · rcases rest with _ | ⟨first, rest⟩
      · obtain rfl : more = entry :: back := by simpa using hRest.symm
        rw [List.append_nil]
        refine .inr ⟨[], entry, back, rfl, ?_⟩
        rw [List.append_nil]
        exact ⟨hPass, hOffends⟩
      · cases hRest
        exact .inl ⟨front, entry, rest, rfl, hPass, hOffends⟩
  · rintro (⟨front, entry, back, rfl, hPass, hOffends⟩ | ⟨front, entry, back, rfl, hPass, hOffends⟩)
    · refine ⟨front, entry, back ++ more, ?_, hPass, hOffends⟩
      rw [List.append_assoc, List.cons_append]
    · rw [List.append_assoc] at hPass hOffends
      exact ⟨entries ++ front, entry, back, List.append_assoc .. |>.symm, hPass, hOffends⟩

end Layout

-- ---------------------------------------------------------------------------
-- Groups
-- ---------------------------------------------------------------------------

theorem Offends.congr {streamId : Text} {seen seen' : List Text} {a : Attribute} {listed : Group}
    {fault : Fault} (hSeen : ∀ t, t ∈ seen ↔ t ∈ seen') (h : Offends streamId seen a listed fault) :
    Offends streamId seen' a listed fault := by
  cases h with
  | misplaced hGroup => exact .misplaced hGroup
  | nameless hGroup hName => exact .nameless hGroup hName
  | unusable hGroup hName hPlain => exact .unusable hGroup hName hPlain
  | repeated hFits hIn => exact .repeated hFits ((hSeen _).mp hIn)

/-- The attributes of a group, each with the group that it is listed under. -/
def listedUnder (g : Group) (list : List Attribute) : List (Attribute × Group) := list.map (·, g)

section Groups

variable {streamId : Text} {seen : List Text} {before : List (Attribute × Group)} {listed : Group}
  (hSeen : ∀ t, t ∈ seen ↔ t ∈ namesIn before) (hBefore : AllPass before)
include hSeen hBefore

/-- One more attribute is accepted if it passes behind those before it. -/
theorem acceptName_eq_ok_iff_allPass {a : Attribute} {name : Text} :
    acceptName streamId listed seen a.declared = .ok name ↔
      name = a.name ∧ AllPass (before ++ [(a, listed)]) := by
  rw [acceptName_eq_ok_iff_fits, allPass_append_singleton, hSeen]
  exact and_congr_right fun _ => (and_iff_right hBefore).symm

omit hBefore in
theorem mem_cons_iff_mem_namesIn (a : Attribute) (t : Text) :
    t ∈ a.name :: seen ↔ t ∈ namesIn (before ++ [(a, listed)]) := by
  rw [namesIn_append, List.mem_append, List.mem_cons, hSeen, or_comm]
  exact or_congr_right List.mem_singleton.symm

/-- A group is accepted if all attributes pass up to its end. -/
theorem acceptNames_eq_ok_iff_allPass {list : List Attribute} {names : List Text} :
    acceptNames streamId listed seen (list.map Attribute.declared) = .ok names ↔
      names = list.map Attribute.name ∧ AllPass (before ++ listedUnder listed list) := by
  induction list generalizing before seen names with
  | nil =>
    rw [listedUnder, List.map_nil, List.map_nil, List.map_nil, List.append_nil]
    constructor
    · intro h
      cases h
      exact ⟨rfl, hBefore⟩
    · rintro ⟨rfl, -⟩
      rfl
  | cons a rest ih =>
    have hLayout : before ++ listedUnder listed (a :: rest)
        = before ++ [(a, listed)] ++ listedUnder listed rest := by
      rw [List.append_assoc]
      rfl
    rw [List.map_cons, acceptNames, bind_eq_ok_iff, hLayout]
    constructor
    · rintro ⟨name, hName, h⟩
      obtain ⟨rfl, hOne⟩ := (acceptName_eq_ok_iff_allPass hSeen hBefore).mp hName
      obtain ⟨more, hMore, hEq⟩ := bind_eq_ok_iff.mp h
      cases hEq
      obtain ⟨rfl, hPass⟩ := (ih (mem_cons_iff_mem_namesIn hSeen a) hOne).mp hMore
      exact ⟨rfl, hPass⟩
    · rintro ⟨rfl, hPass⟩
      have hOne := hPass.of_append
      refine ⟨a.name, (acceptName_eq_ok_iff_allPass hSeen hBefore).mpr ⟨rfl, hOne⟩, ?_⟩
      exact bind_eq_ok_iff.mpr
        ⟨_, (ih (mem_cons_iff_mem_namesIn hSeen a) hOne).mpr ⟨rfl, hPass⟩, rfl⟩

/-- **The first offence in a group** is what it is turned down for. -/
theorem acceptNames_eq_error_iff {list : List Attribute} {fault : Fault} :
    acceptNames streamId listed seen (list.map Attribute.declared) = .error fault ↔
      FirstOffence streamId before (listedUnder listed list) fault := by
  induction list generalizing before seen with
  | nil => exact iff_of_false nofun firstOffence_nil
  | cons a rest ih =>
    have hLayout : listedUnder listed (a :: rest) = [(a, listed)] ++ listedUnder listed rest := rfl
    rw [List.map_cons, acceptNames, bind_eq_error_iff, acceptName_eq_error_iff, hLayout,
      firstOffence_append, firstOffence_singleton]
    constructor
    · rintro (hOffends | ⟨name, hName, h⟩)
      · exact .inl ⟨hBefore, hOffends.congr hSeen⟩
      · obtain ⟨rfl, hOne⟩ := (acceptName_eq_ok_iff_allPass hSeen hBefore).mp hName
        rcases bind_eq_error_iff.mp h with hRest | ⟨_, -, hDone⟩
        · exact .inr ((ih (mem_cons_iff_mem_namesIn hSeen a) hOne).mp hRest)
        · cases hDone
    · rintro (⟨-, hOffends⟩ | hLater)
      · exact .inl (hOffends.congr fun t => (hSeen t).symm)
      · have hOne := hLater.allPass
        refine .inr ⟨a.name, (acceptName_eq_ok_iff_allPass hSeen hBefore).mpr ⟨rfl, hOne⟩, ?_⟩
        exact bind_eq_error_iff.mpr
          (.inl ((ih (mem_cons_iff_mem_namesIn hSeen a) hOne).mpr hLater))

end Groups

-- ---------------------------------------------------------------------------
-- Declarations
-- ---------------------------------------------------------------------------

/-- A declaration whose names are texts, as its maker sees it. -/
structure Blueprint where
  name : Text
  version : Value
  metadata : List Attribute
  correlation : List Attribute
  payload : List Attribute

namespace Blueprint

variable (b : Blueprint)

/-- The blueprint as a declaration. -/
def declaration : Declaration :=
  ⟨.text b.name, b.version, b.metadata.map Attribute.declared,
    b.correlation.map Attribute.declared, b.payload.map Attribute.declared⟩

/-- The stream that the blueprint is for. -/
def stream : Stream :=
  ⟨.text b.name, b.version, b.metadata.map Attribute.name, b.correlation.map Attribute.name,
    b.payload.map Attribute.name⟩

/-- All attributes in layout order. -/
def layout : List (Attribute × Group) :=
  listedUnder .metadata b.metadata ++ listedUnder .correlation b.correlation
    ++ listedUnder .payload b.payload

/-- What a blueprint has to be like to be accepted, without any keys. -/
structure Acceptable : Prop where
  named : b.name ≠ []
  allPass : AllPass b.layout
  metadata_free : ∀ x ∈ b.metadata, "meta_".toList ++ x.name ∉ namesIn b.layout
  correlation_free : ∀ y ∈ b.correlation, "correlation_".toList ++ y.name ∉ namesIn b.layout

/-- Why a blueprint is turned down: there is no name, an attribute offends, or if none does, a key
comes a second time. -/
inductive Refused : Fault → Prop where
  | nameless (hName : b.name = []) : Refused .namelessStream
  | offence {fault : Fault} (hName : b.name ≠ [])
      (hOffence : FirstOffence b.stream.id [] b.layout fault) : Refused fault
  | collision {front back : List Text} {key : Text} (hName : b.name ≠ []) (hPass : AllPass b.layout)
      (hKeys : b.stream.placeholderKeys.map Prod.fst = front ++ key :: back)
      (hFront : front.Nodup) (hKey : key ∈ front) : Refused (.ambiguousKey key b.stream.id)

theorem namesIn_listedUnder (g : Group) (list : List Attribute) :
    namesIn (listedUnder g list) = list.map Attribute.name := by
  rw [namesIn, listedUnder, List.map_map]
  rfl

theorem namesIn_layout : namesIn b.layout = b.stream.allNames := by
  rw [layout, namesIn_append, namesIn_append, namesIn_listedUnder, namesIn_listedUnder,
    namesIn_listedUnder]
  rfl

theorem mem_metadata_iff (t : Text) :
    t ∈ b.metadata.map Attribute.name ↔ t ∈ namesIn (listedUnder .metadata b.metadata) := by
  rw [namesIn_listedUnder]

theorem mem_correlation_iff (t : Text) :
    t ∈ b.metadata.map Attribute.name ++ b.correlation.map Attribute.name ↔
      t ∈ namesIn (listedUnder .metadata b.metadata ++ listedUnder .correlation b.correlation) := by
  rw [namesIn_append, namesIn_listedUnder, namesIn_listedUnder]

variable {b}

theorem isTruthy_name_iff : (Value.text b.name).isTruthy = true ↔ b.name ≠ [] := by
  simp [Value.isTruthy]

/-- No key comes a second time if no attribute has the key of another one as its name. -/
theorem firstRepeated?_eq_none_iff_free (hPass : AllPass b.layout) :
    firstRepeated? [] (b.stream.placeholderKeys.map Prod.fst) = none ↔
      (∀ x ∈ b.metadata, "meta_".toList ++ x.name ∉ namesIn b.layout)
      ∧ ∀ y ∈ b.correlation, "correlation_".toList ++ y.name ∉ namesIn b.layout := by
  have hNames : b.stream.allNames.Nodup := by
    rw [← namesIn_layout]
    exact hPass.distinct
  rw [firstRepeated?_eq_none_iff, Stream.nodup_keys_iff hNames, namesIn_layout, stream,
    List.forall_mem_map, List.forall_mem_map]
  exact and_iff_left nofun

/-- **Which blueprints are accepted.** -/
theorem accept_eq_ok_iff_acceptable {s : Stream} :
    b.declaration.accept = .ok s ↔ s = b.stream ∧ b.Acceptable := by
  rw [accept_eq_ok_iff_steps]
  constructor
  · rintro ⟨⟨hName, hVersion, hNamed⟩, hMetadata, hCorrelation, hPayload, hKeys⟩
    obtain ⟨hFirst, hPass₁⟩ :=
      (acceptNames_eq_ok_iff_allPass mem_namesIn_nil allPass_nil).mp hMetadata
    rw [hFirst] at hCorrelation hPayload
    obtain ⟨hSecond, hPass₂⟩ :=
      (acceptNames_eq_ok_iff_allPass b.mem_metadata_iff hPass₁).mp hCorrelation
    rw [hSecond] at hPayload
    obtain ⟨hThird, hPass⟩ :=
      (acceptNames_eq_ok_iff_allPass b.mem_correlation_iff hPass₂).mp hPayload
    obtain rfl : s = b.stream := by
      obtain ⟨name, version, metadata, correlation, payload⟩ := s
      dsimp only at hName hVersion hFirst hSecond hThird
      rw [hName, hVersion, hFirst, hSecond, hThird]
      rfl
    obtain ⟨hMetadataFree, hCorrelationFree⟩ := (firstRepeated?_eq_none_iff_free hPass).mp hKeys
    exact ⟨rfl, isTruthy_name_iff.mp hNamed, hPass, hMetadataFree, hCorrelationFree⟩
  · rintro ⟨rfl, hNamed, hPass, hMetadataFree, hCorrelationFree⟩
    have hPass₂ := hPass.of_append
    have hPass₁ := hPass₂.of_append
    refine ⟨⟨rfl, rfl, isTruthy_name_iff.mpr hNamed⟩, ?_, ?_, ?_, ?_⟩
    · exact (acceptNames_eq_ok_iff_allPass mem_namesIn_nil allPass_nil).mpr ⟨rfl, hPass₁⟩
    · exact (acceptNames_eq_ok_iff_allPass b.mem_metadata_iff hPass₁).mpr ⟨rfl, hPass₂⟩
    · exact (acceptNames_eq_ok_iff_allPass b.mem_correlation_iff hPass₂).mpr ⟨rfl, hPass⟩
    · exact (firstRepeated?_eq_none_iff_free hPass).mpr ⟨hMetadataFree, hCorrelationFree⟩

theorem firstOffence_layout {streamId : Text} {fault : Fault} :
    FirstOffence streamId [] b.layout fault ↔
      FirstOffence streamId [] (listedUnder .metadata b.metadata) fault
      ∨ FirstOffence streamId (listedUnder .metadata b.metadata)
          (listedUnder .correlation b.correlation) fault
      ∨ FirstOffence streamId
          (listedUnder .metadata b.metadata ++ listedUnder .correlation b.correlation)
          (listedUnder .payload b.payload) fault := by
  rw [layout, firstOffence_append, firstOffence_append, or_assoc]
  rfl

theorem not_isTruthy_name_iff : (!b.declaration.name.isTruthy) = true ↔ b.name = [] := by
  simp [declaration, Value.isTruthy]

theorem refused_of_accept {fault : Fault} (h : b.declaration.accept = .error fault) :
    b.Refused fault := by
  rw [Declaration.accept] at h
  split at h
  · rename_i hNothing
    cases h
    exact .nameless (not_isTruthy_name_iff.mp hNothing)
  · rename_i hSomething
    have hName : b.name ≠ [] := fun hNone => hSomething (not_isTruthy_name_iff.mpr hNone)
    rcases bind_eq_error_iff.mp h with hMetadata | ⟨metadata, hMetadata, h⟩
    · have hFirst := (acceptNames_eq_error_iff mem_namesIn_nil allPass_nil).mp hMetadata
      exact .offence hName (firstOffence_layout.mpr (.inl hFirst))
    obtain ⟨rfl, hPass₁⟩ := (acceptNames_eq_ok_iff_allPass mem_namesIn_nil allPass_nil).mp hMetadata
    rcases bind_eq_error_iff.mp h with hCorrelation | ⟨correlation, hCorrelation, h⟩
    · have hFirst := (acceptNames_eq_error_iff b.mem_metadata_iff hPass₁).mp hCorrelation
      exact .offence hName (firstOffence_layout.mpr (.inr (.inl hFirst)))
    obtain ⟨rfl, hPass₂⟩ :=
      (acceptNames_eq_ok_iff_allPass b.mem_metadata_iff hPass₁).mp hCorrelation
    rcases bind_eq_error_iff.mp h with hPayload | ⟨payload, hPayload, h⟩
    · have hFirst := (acceptNames_eq_error_iff b.mem_correlation_iff hPass₂).mp hPayload
      exact .offence hName (firstOffence_layout.mpr (.inr (.inr hFirst)))
    obtain ⟨rfl, hPass⟩ :=
      (acceptNames_eq_ok_iff_allPass b.mem_correlation_iff hPass₂).mp hPayload
    dsimp only at h
    split at h
    · rename_i key hKey
      cases h
      obtain ⟨front, back, hKeys, hFront, -, hIn⟩ := firstRepeated?_eq_some_iff.mp hKey
      exact .collision hName hPass hKeys hFront (hIn.resolve_right List.not_mem_nil)
    · cases h

theorem accept_of_refused {fault : Fault} (h : b.Refused fault) :
    b.declaration.accept = .error fault := by
  have hNamed : b.name ≠ [] → ¬ (!b.declaration.name.isTruthy) = true :=
    fun hName => not_isTruthy_name_iff.not.mpr hName
  have hMetadata : AllPass (listedUnder .metadata b.metadata) → acceptNames b.stream.id .metadata []
      (b.metadata.map Attribute.declared) = .ok (b.metadata.map Attribute.name) :=
    fun hPass₁ => (acceptNames_eq_ok_iff_allPass mem_namesIn_nil allPass_nil).mpr ⟨rfl, hPass₁⟩
  have hCorrelation : AllPass (listedUnder .metadata b.metadata
      ++ listedUnder .correlation b.correlation) → acceptNames b.stream.id .correlation
        (b.metadata.map Attribute.name) (b.correlation.map Attribute.declared)
          = .ok (b.correlation.map Attribute.name) :=
    fun hPass₂ => (acceptNames_eq_ok_iff_allPass b.mem_metadata_iff hPass₂.of_append).mpr
      ⟨rfl, hPass₂⟩
  cases h with
  | nameless hName => rw [Declaration.accept, if_pos (not_isTruthy_name_iff.mpr hName)]
  | offence hName hOffence =>
    rw [Declaration.accept, if_neg (hNamed hName)]
    rcases firstOffence_layout.mp hOffence with hFirst | hFirst | hFirst
    · exact bind_eq_error_iff.mpr
        (.inl ((acceptNames_eq_error_iff mem_namesIn_nil allPass_nil).mpr hFirst))
    · have hPass₁ := hFirst.allPass
      refine bind_eq_error_iff.mpr (.inr ⟨_, hMetadata hPass₁, bind_eq_error_iff.mpr (.inl ?_)⟩)
      exact (acceptNames_eq_error_iff b.mem_metadata_iff hPass₁).mpr hFirst
    · have hPass₂ := hFirst.allPass
      refine bind_eq_error_iff.mpr (.inr ⟨_, hMetadata hPass₂.of_append, ?_⟩)
      refine bind_eq_error_iff.mpr (.inr ⟨_, hCorrelation hPass₂, bind_eq_error_iff.mpr (.inl ?_)⟩)
      exact (acceptNames_eq_error_iff b.mem_correlation_iff hPass₂).mpr hFirst
  | @collision front back key hName hPass hKeys hFront hKey =>
    have hPass₂ := hPass.of_append
    have hRepeated : firstRepeated? [] (b.stream.placeholderKeys.map Prod.fst) = some key :=
      firstRepeated?_eq_some_iff.mpr
        ⟨front, back, hKeys, hFront, fun _ _ => List.not_mem_nil, .inl hKey⟩
    rw [Declaration.accept, if_neg (hNamed hName)]
    refine bind_eq_error_iff.mpr (.inr ⟨_, hMetadata hPass₂.of_append, ?_⟩)
    refine bind_eq_error_iff.mpr (.inr ⟨_, hCorrelation hPass₂, ?_⟩)
    refine bind_eq_error_iff.mpr (.inr ⟨b.payload.map Attribute.name, ?_, ?_⟩)
    · exact (acceptNames_eq_ok_iff_allPass b.mem_correlation_iff hPass₂).mpr ⟨rfl, hPass⟩
    · rw [stream] at hRepeated
      dsimp only [declaration]
      rw [hRepeated]
      rfl

/-- All reasons are problems with what is to hold of a stream. -/
theorem Refused.isInvariantProblem {fault : Fault} (h : b.Refused fault) :
    ∃ message detail, fault.problem? = some (.ofMessage .invariant message detail) := by
  cases h with
  | nameless => exact ⟨_, _, rfl⟩
  | collision => exact ⟨_, _, rfl⟩
  | offence _ hOffence =>
    obtain ⟨_, _, _, _, _, hOffends⟩ := hOffence
    cases hOffends <;> exact ⟨_, _, rfl⟩

/-- **Which declarations are accepted, and what the others are turned down for.** A blueprint is
accepted as its own stream exactly if it is acceptable, which is said of its names alone. Otherwise
its fault is the reason that comes first, and it is a problem of that kind. -/
theorem accept_outcome (b : Blueprint) :
    (∀ s, b.declaration.accept = .ok s ↔ s = b.stream ∧ b.Acceptable)
    ∧ (∀ fault, b.declaration.accept = .error fault ↔ b.Refused fault)
    ∧ ∀ fault, b.declaration.accept = .error fault →
      ∃ message detail, fault.problem? = some (.ofMessage .invariant message detail) :=
  ⟨fun _ => accept_eq_ok_iff_acceptable, fun _ => ⟨refused_of_accept, accept_of_refused⟩,
    fun _ h => (refused_of_accept h).isInvariantProblem⟩

example : (Blueprint.mk "orders".toList (.text "1".toList) [⟨"id".toList, .metadata⟩] []
    [⟨"meta_id".toList, .payload⟩]).declaration.accept
      = .error (.ambiguousKey "meta_id".toList "orders:1".toList) := by
  rfl

end Blueprint

end EventLoom
