import EventLoom.Fault

/-!
# Templates

A template is a text with placeholders in it. It is kept as its first literal and a list of
holes, each of which is a placeholder's key with the literal behind it, so that literals and
placeholders alternate by construction. Templates are equal when their literals and keys are.

Literals and keys are texts, but a template can be put together by hand from anything else too.

The other view of a template is its list of segments. Not every list of segments is a template:
it has to begin and to end with a literal, and literals and placeholders have to alternate.

## Results

* `ofSegments_segments` — the segments of a template make up that template again.
* `segments_of_assemble?` — only the segments of a template make up a template.
* `length_segments` — a template has one segment more than twice its number of keys.
-/

namespace EventLoom

open Text

/-- A placeholder with the literal behind it. -/
structure HoleOf (α : Type) where
  key : α
  tail : α
  deriving DecidableEq, Repr

/-- A first literal, and the placeholders with the literals behind them. -/
structure TemplateOf (α : Type) where
  lead : α
  holes : List (HoleOf α)
  deriving DecidableEq, Repr

/-- A placeholder of a text. -/
abbrev Hole := HoleOf Text

/-- A text with placeholders. -/
abbrev Template := TemplateOf Text

/-- What stands before a placeholder's key. -/
def openToken : Text := ['{', '{']

/-- What stands behind a placeholder's key. -/
def closeToken : Text := ['}', '}']

/-- A placeholder as it is written. -/
def placeholder (key : Text) : Text := openToken ++ key ++ closeToken

/-- A piece of a template. -/
inductive Segment (α : Type) where
  | literal (t : α)
  | placeholder (key : α)
  deriving DecidableEq, Repr

/-- Whether the segment is a literal. -/
def Segment.isLiteral {α : Type} : Segment α → Bool
  | .literal _ => true
  | .placeholder _ => false

/-- The template as the text that it was made of. -/
def Template.written (t : Template) : Text :=
  t.lead ++ t.holes.flatMap fun hole => placeholder hole.key ++ hole.tail

namespace TemplateOf

variable {α : Type}

/-- The literals in order. -/
def literals (t : TemplateOf α) : List α := t.lead :: t.holes.map HoleOf.tail

/-- The keys of the placeholders in order. -/
def keys (t : TemplateOf α) : List α := t.holes.map HoleOf.key

/-- Whether the template has any placeholder. -/
def hasPlaceholders (t : TemplateOf α) : Bool := !t.holes.isEmpty

-- ---------------------------------------------------------------------------
-- Segments
-- ---------------------------------------------------------------------------

/-- Literals and placeholders, one after the other. -/
def segments (t : TemplateOf α) : List (Segment α) :=
  .literal t.lead :: t.holes.flatMap fun hole => [.placeholder hole.key, .literal hole.tail]

/-- The holes that a list of segments makes up, if placeholders and literals alternate in it. -/
def assembleHoles? : List (Segment α) → Option (List (HoleOf α))
  | [] => some []
  | .placeholder key :: .literal tail :: rest => (assembleHoles? rest).map (⟨key, tail⟩ :: ·)
  | _ => none

/-- The template that a list of segments makes up. -/
def assemble? : List (Segment α) → Option (TemplateOf α)
  | .literal lead :: rest => (assembleHoles? rest).map (⟨lead, ·⟩)
  | _ => none

/-- The place, counted from `index`, of the first segment that is not of the kind whose turn it
is; `literal` says whether a literal's turn comes first. -/
def misplaced? (literal : Bool) (index : Nat) : List (Segment α) → Option Nat
  | [] => none
  | segment :: rest =>
    if segment.isLiteral = literal then misplaced? (!literal) (index + 1) rest else some index

/-- The template that a list of segments makes up. An even number of segments is reported first,
whatever they are. -/
def ofSegments (list : List (Segment α)) : Except Fault (TemplateOf α) :=
  match assemble? list with
  | some t => .ok t
  | none =>
    .error (if list.length % 2 = 0 then .evenSegmentCount list.length
      else .misplacedSegment ((misplaced? true 0 list).getD 0))

theorem assembleHoles?_flatMap (holes : List (HoleOf α)) :
    assembleHoles? (holes.flatMap fun hole => [.placeholder hole.key, .literal hole.tail])
      = some holes := by
  induction holes with
  | nil => rfl
  | cons hole rest ih => simp [assembleHoles?, ih]

theorem assemble?_segments (t : TemplateOf α) : assemble? t.segments = some t := by
  simp [assemble?, segments, assembleHoles?_flatMap]

theorem ofSegments_segments (t : TemplateOf α) : ofSegments t.segments = .ok t := by
  simp [ofSegments, assemble?_segments]

theorem flatMap_of_assembleHoles? {list : List (Segment α)} {holes : List (HoleOf α)}
    (h : assembleHoles? list = some holes) :
    list = holes.flatMap fun hole => [.placeholder hole.key, .literal hole.tail] := by
  fun_induction assembleHoles? list generalizing holes with
  | case1 => simp_all
  | case2 key tail rest ih =>
    obtain ⟨more, hMore, rfl⟩ := Option.map_eq_some_iff.1 h
    simp [ih hMore]
  | case3 => simp at h

theorem segments_of_assemble? {list : List (Segment α)} {t : TemplateOf α}
    (h : assemble? list = some t) : list = t.segments := by
  unfold assemble? at h
  split at h
  · obtain ⟨holes, hHoles, rfl⟩ := Option.map_eq_some_iff.1 h
    simp [segments, ← flatMap_of_assembleHoles? hHoles]
  · simp at h

theorem length_segments (t : TemplateOf α) : t.segments.length = 2 * t.keys.length + 1 := by
  obtain ⟨lead, holes⟩ := t
  induction holes with
  | nil => rfl
  | cons hole rest ih =>
    simp only [segments, keys, List.flatMap_cons, List.length_cons, List.length_append,
      List.length_map, List.length_nil] at ih ⊢
    omega

end TemplateOf

end EventLoom
