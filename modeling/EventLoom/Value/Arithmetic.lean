import EventLoom.Value.Access
import EventLoom.Number.Real

/-!
# Values as numbers

Numbers are read from values of any kind: a text is read as a numeral, a truth value counts as one
or zero, and a number of another kind is converted. Adding and multiplying goes by the kinds as
well: integers stay integers, a real number makes the result real, and sequences of one kind are
put one behind the other or repeated.
-/

namespace EventLoom

open Text Number

-- ---------------------------------------------------------------------------
-- Reading numbers
-- ---------------------------------------------------------------------------

/-- The integer that a text denotes. A numeral that is too long is reported as such, whatever
stands behind it. -/
def Number.integerOfText (t : Text) : Except Fault Int :=
  match readNumeral? t with
  | none => .error (.notInteger t)
  | some numeral =>
    if digitLimit < numeral.digits.length then .error (.tooManyDigits numeral.digits.length)
    else if numeral.isWhole then .ok numeral.value
    else .error (.notInteger t)

/-- The number that a text denotes. -/
def Number.realOfText (t : Text) : Except Fault Binary64 :=
  match readReal? t with
  | none => .error (.notReal t)
  | some x => .ok x

/-- The number nearest to an integer. -/
def Number.realOfInteger (n : Int) : Except Fault Binary64 :=
  match Binary64.ofInt n with
  | .infinity _ => .error .tooLargeForReal
  | x => .ok x

/-- The integers that are lengths. -/
def Number.isLength (n : Int) : Bool := -(twoTo 63 : Int) ≤ n && n < twoTo 63

/-- The number without its fraction. -/
def Binary64.truncate : Binary64 → Except Fault Int
  | .nan => .error .notNumberInteger
  | .infinity _ => .error .infiniteInteger
  | .finite negative mantissa exponent =>
    let (num, den) := fraction mantissa exponent
    let magnitude : Int := (num / den : Nat)
    .ok (if negative then -magnitude else magnitude)

/-- The decimal number that a binary one is. -/
def Decimal.ofReal : Binary64 → Decimal
  | .nan => .nan false false 0
  | .infinity negative => .infinity negative
  | .finite negative mantissa exponent =>
    let (num, den) := Binary64.fraction mantissa exponent
    let divisor := Nat.gcd num den
    -- the denominator is a power of two, and five to the same power makes it one of ten
    let places := Nat.log2 (den / divisor)
    .finite negative (num / divisor * Nat.pow 5 places) (-places)

/-- The decimal number that a text denotes. -/
def Decimal.ofText (t : Text) : Except Fault Decimal :=
  match Decimal.read? t with
  | none => .error .notDecimal
  | some d => if d.isBounded then .ok d else .error .unboundedDecimal

namespace Value

/-- The integer that a value gives. -/
def toInteger : Value → Except Fault Int
  | .text t => integerOfText t
  | .int n => .ok n
  | .bool b => .ok b.toInt
  | .float x => x.truncate
  | _ => .error .wrongType

/-- The real number that a value gives. -/
def toReal : Value → Except Fault Binary64
  | .text t => realOfText t
  | .int n => realOfInteger n
  | .bool b => realOfInteger b.toInt
  | .float x => .ok x
  | _ => .error .wrongType

/-- The decimal number that a value gives. -/
def toDecimal : Value → Except Fault Decimal
  | .text t => Decimal.ofText t
  | .int n => .ok (.finite (n < 0) n.natAbs 0)
  | .bool b => .ok (.finite false b.toNat 0)
  | .float x => .ok (.ofReal x)
  | .decimal d => .ok d
  | _ => .error .wrongType

-- ---------------------------------------------------------------------------
-- Comparing and calculating
-- ---------------------------------------------------------------------------

/-- Whether a value is a number below `bound`. Only numbers compare with numbers. -/
def isBelow (v : Value) (bound : Int) : Except Fault Bool :=
  match v with
  | .bool b => .ok (b.toInt < bound)
  | .int n => .ok (n < bound)
  | .float x => .ok (x.lessThan bound)
  | .decimal d =>
    match d.lessThan? bound with
    | some below => .ok below
    | none => .error .incomparable
  | _ => .error .wrongType

/-- Whether the value is an integer, a truth value or a binary number. -/
def isReal : Value → Bool
  | .float _ | .int _ | .bool _ => true
  | _ => false

/-- Calculate with two numbers as reals. -/
def calculate (f : Binary64 → Binary64 → Binary64) (v w : Value) : Except Fault Value :=
  if v.isReal && w.isReal then do return .float (f (← v.toReal) (← w.toReal))
  else .error .wrongType

/-- Items a number of times, one after the other; less than once is not at all. -/
def repeated {α : Type} (items : List α) (count : Int) : Except Fault (List α) :=
  if isLength count then .ok ((List.replicate count.toNat items).flatten) else .error .notCount

/-- The sum of two numbers, or two sequences one behind the other. -/
def plus (v w : Value) : Except Fault Value :=
  match v.asInteger?, w.asInteger? with
  | some m, some n => .ok (.int (m + n))
  | _, _ =>
    match v, w with
    | .text t, .text u => .ok (.text (t ++ u))
    | .list items, .list more => .ok (.list (items ++ more))
    | .tuple items, .tuple more => .ok (.tuple (items ++ more))
    | .bytes b, .bytes c => .ok (.bytes (b ++ c))
    | _, _ => calculate .plus v w

/-- A sequence as often as a number says. -/
def repeatedBy (v : Value) (count : Int) : Except Fault Value :=
  match v with
  | .text t => (repeated t count).map .text
  | .list items => (repeated items count).map .list
  | .tuple items => (repeated items count).map .tuple
  | .bytes b => (repeated b count).map .bytes
  | _ => .error .wrongType

/-- The product of two numbers, or a sequence as often as a number says. -/
def times (v w : Value) : Except Fault Value :=
  match v.asInteger?, w.asInteger? with
  | some m, some n => .ok (.int (m * n))
  | none, some n => if v.isReal then calculate .times v w else v.repeatedBy n
  | some m, none => if w.isReal then calculate .times v w else w.repeatedBy m
  | none, none => calculate .times v w

end Value

end EventLoom
