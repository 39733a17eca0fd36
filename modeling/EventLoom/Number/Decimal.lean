import EventLoom.Number.Real

/-!
# Decimal numbers

Decimal numbers keep their coefficient and their power of ten as they were written, so 1.10 and
1.1 are two numbers. They are written without an exponent if the power of ten is not positive
and the number is not less than 10⁻⁶; otherwise with one digit before the point.
-/

namespace EventLoom

/-- A decimal number: `± coefficient · 10 ^ exponent`, an infinity, or not a number, with a
diagnostic payload. -/
inductive Decimal where
  | finite (negative : Bool) (coefficient : Nat) (exponent : Int)
  | infinity (negative : Bool)
  | nan (negative signaling : Bool) (payload : Nat)
  deriving DecidableEq, Repr, Inhabited

namespace Decimal

open Text Number

/-- A decimal number as text. -/
def text : Decimal → Text
  | .infinity negative => sign negative ++ "Infinity".toList
  | .nan negative signaling payload =>
    sign negative ++ (if signaling then ['s'] else []) ++ "NaN".toList ++
      (if payload = 0 then [] else Nat.toDigits 10 payload)
  | .finite negative coefficient exponent =>
    let digits := Nat.toDigits 10 coefficient
    -- where the point stands, counted in digits from the left
    let point := exponent + digits.length
    let shown := if exponent ≤ 0 ∧ -6 < point then point else 1
    sign negative ++ placePoint digits shown ++
      (if point = shown then [] else 'E' :: signed (point - shown))
where
  sign (negative : Bool) : Text := if negative then ['-'] else []
  signed (n : Int) : Text := (if n < 0 then '-' else '+') :: Nat.toDigits 10 n.natAbs
  placePoint (digits : Text) (point : Int) : Text :=
    if point ≤ 0 then '0' :: '.' :: List.replicate (-point).toNat '0' ++ digits
    else if digits.length ≤ point.toNat then
      digits ++ List.replicate (point.toNat - digits.length) '0'
    else digits.take point.toNat ++ '.' :: digits.drop point.toNat

/-- Whether the number is zero, with either sign. -/
def isZero : Decimal → Bool
  | .finite _ coefficient _ => coefficient == 0
  | _ => false

/-- The greatest power of ten that the first digit of a number may stand for. -/
def greatestPower : Int := 999999999999999999

/-- The least power of ten that the last digit of a number may stand for. -/
def leastPower : Int := -1999999999999999997

/-- Whether the exponent keeps within all bounds. -/
def isBounded : Decimal → Bool
  | .finite _ coefficient exponent =>
    exponent + (Nat.toDigits 10 coefficient).length - 1 ≤ greatestPower && leastPower ≤ exponent
  | _ => true

/-- Whether `x < n`; `none` if `x` is not a number. -/
def lessThan? (x : Decimal) (n : Int) : Option Bool :=
  match x with
  | .nan .. => none
  | .infinity negative => some negative
  | .finite negative coefficient exponent =>
    let m : Int := if negative then -coefficient else coefficient
    -- how many digits stand before the point
    let magnitude := (natText coefficient).length + exponent
    if coefficient = 0 then some (0 < n)
    -- outside these bounds the power of ten decides, and is not to be computed
    else if (natText n.natAbs).length < magnitude then some negative
    else if magnitude ≤ 0 then some (if negative then 0 ≤ n else 0 < n)
    else if 0 ≤ exponent then some (m * tenTo exponent.toNat < n)
    else some (m < n * tenTo (-exponent).toNat)

/-- Read a decimal number. Underscores are skipped wherever they stand. -/
def read? (t : Text) : Option Decimal :=
  let (negative, body) := takeSign ((strip t).filter (· != '_'))
  let word := lowerAscii body
  if word = "inf".toList ∨ word = "infinity".toList then some (.infinity negative)
  else
    match breakAt? "nan".toList word with
    | some ([], payload) => (readOptionalDigits? payload).map (.nan negative false ∘ ofDigits)
    | some (['s'], payload) => (readOptionalDigits? payload).map (.nan negative true ∘ ofDigits)
    | _ => (readScientific? body).map fun s => .finite negative s.coefficient s.exponent

end Decimal

end EventLoom
