import EventLoom.Number.Power

/-!
# Binary floating point numbers

The numbers of IEEE 754's binary64 format as data: a finite number is a sign, a mantissa and a
power of two, so that every operation here is exact arithmetic on naturals. `ofRatio` rounds a
quotient to the nearest such number, ties to the even mantissa, and beyond the largest finite
number to infinity.
-/

namespace EventLoom

/-- A binary64 number. `finite negative mantissa exponent` is `± mantissa · 2 ^ exponent`; the
mantissa has 53 bits unless the exponent is the least one, -1074. -/
inductive Binary64 where
  | nan
  | infinity (negative : Bool)
  | finite (negative : Bool) (mantissa : Nat) (exponent : Int)
  deriving DecidableEq, Repr, Inhabited

namespace Binary64

open Number

/-- The least exponent of a finite number. -/
def leastExponent : Int := -1074

/-- The greatest exponent of a finite number. -/
def greatestExponent : Int := 971

/-- The quotient rounded to the nearest natural number, a half to the even one. -/
def roundQuotient (num den : Nat) : Nat :=
  let q := num / den
  let r := num % den
  if den < 2 * r ∨ (den = 2 * r ∧ q % 2 = 1) then q + 1 else q

/-- The quotient `num / den` over `2 ^ exponent`, as a quotient of naturals. -/
def scaleBy (num den : Nat) (exponent : Int) : Nat × Nat :=
  if 0 ≤ exponent then (num, den * twoTo exponent.toNat) else (num * twoTo (-exponent).toNat, den)

/-- The exponent at which the quotient's mantissa has 53 bits, or the least exponent if that is
greater. -/
def exponentOf (num den : Nat) : Int :=
  let guess : Int := (Nat.log2 num : Int) - (Nat.log2 den : Int) - 53
  -- the quotient over two to the guess lies between 2 ^ 52 and 2 ^ 54
  let scaled := scaleBy num den guess
  let exponent := if scaled.1 < twoTo 53 * scaled.2 then guess else guess + 1
  max exponent leastExponent

/-- The number nearest to `± num / den`; `den` is not zero. -/
def ofRatio (negative : Bool) (num den : Nat) : Binary64 :=
  if num = 0 then .finite negative 0 leastExponent
  else
    let exponent := exponentOf num den
    let scaled := scaleBy num den exponent
    let mantissa := roundQuotient scaled.1 scaled.2
    -- rounding up may carry into a 54th bit
    let (mantissa, exponent) :=
      if mantissa = twoTo 53 then (twoTo 52, exponent + 1) else (mantissa, exponent)
    if greatestExponent < exponent then .infinity negative
    else .finite negative mantissa exponent

/-- The number nearest to `± coefficient · 10 ^ exponent`. -/
def ofScientific (negative : Bool) (coefficient : Nat) (exponent : Int) : Binary64 :=
  -- 30103 / 100000 is the logarithm of two, so this is that of the number, give or take one
  let magnitude : Int := (Nat.log2 coefficient * 30103 / 100000 : Nat) + exponent
  if coefficient = 0 then .finite negative 0 leastExponent
  -- outside these bounds the power of ten decides, and is not to be computed
  else if 310 < magnitude then .infinity negative
  else if magnitude < -330 then .finite negative 0 leastExponent
  else if 0 ≤ exponent then ofRatio negative (coefficient * tenTo exponent.toNat) 1
  else ofRatio negative coefficient (tenTo (-exponent).toNat)

/-- Whether the number is zero, with either sign. -/
def isZero : Binary64 → Bool
  | .finite _ mantissa _ => mantissa == 0
  | _ => false

/-- `mantissa · 2 ^ exponent` as a quotient of naturals. -/
def fraction (mantissa : Nat) (exponent : Int) : Nat × Nat := scaleBy mantissa 1 (-exponent)

/-- The integer that the number is, if it is one. -/
def toInt? : Binary64 → Option Int
  | .finite negative mantissa exponent =>
    let (num, den) := fraction mantissa exponent
    if num % den = 0 then
      let magnitude : Int := (num / den : Nat)
      some (if negative then -magnitude else magnitude)
    else none
  | _ => none

/-- The number nearest to an integer. -/
def ofInt (n : Int) : Binary64 := ofRatio (n < 0) n.natAbs 1

/-- The number nearest to a sum. Infinities of two signs have none, and a sum of zeros is negative
only if both are. -/
def plus (x y : Binary64) : Binary64 :=
  match x, y with
  | .nan, _ | _, .nan => .nan
  | .infinity negative, .infinity negative' =>
    if negative = negative' then .infinity negative else .nan
  | .infinity negative, _ | _, .infinity negative => .infinity negative
  | .finite negative mantissa exponent, .finite negative' mantissa' exponent' =>
    let (num, den) := fraction mantissa exponent
    let (num', den') := fraction mantissa' exponent'
    let sum : Int := (if negative then -(num : Int) else num) * den'
      + (if negative' then -(num' : Int) else num') * den
    if num = 0 ∧ num' = 0 then .finite (negative && negative') 0 leastExponent
    else ofRatio (sum < 0) sum.natAbs (den * den')

/-- The number nearest to a product. Nothing is infinitely often zero. -/
def times (x y : Binary64) : Binary64 :=
  match x, y with
  | .nan, _ | _, .nan => .nan
  | .infinity negative, .infinity negative' => .infinity (negative ^^ negative')
  | .infinity negative, .finite negative' mantissa _
  | .finite negative' mantissa _, .infinity negative =>
    if mantissa = 0 then .nan else .infinity (negative ^^ negative')
  | .finite negative mantissa exponent, .finite negative' mantissa' exponent' =>
    let (num, den) := fraction mantissa exponent
    let (num', den') := fraction mantissa' exponent'
    ofRatio (negative ^^ negative') (num * num') (den * den')

/-- Whether `x < n`; a NaN is not less than anything. -/
def lessThan (x : Binary64) (n : Int) : Bool :=
  match x with
  | .nan => false
  | .infinity negative => negative
  | .finite negative mantissa exponent =>
    let m : Int := if negative then -mantissa else mantissa
    if 0 ≤ exponent then m * twoTo exponent.toNat < n else m < n * twoTo (-exponent).toNat

end Binary64

end EventLoom
