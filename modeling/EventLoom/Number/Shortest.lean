import EventLoom.Number.Binary64

/-!
# Shortest decimal form

A finite binary64 number is written with the fewest digits that read back as it. The reals that
round to the number form an interval, whose ends belong to it exactly when the mantissa is even.
Among the powers of ten, the greatest one with a multiple in the interval gives the fewest
digits; only the two multiples next to the number need be tried. If both lie in the interval the
nearer is taken, and of two equally near ones the even one.

How the digits are laid out is a separate choice (`FloatStyle`): the form with an exponent is
used below 10⁻⁴ and from 10¹⁶ on.
-/

namespace EventLoom.Number

open Binary64

-- ---------------------------------------------------------------------------
-- The digits
-- ---------------------------------------------------------------------------

/-- The interval of reals that round to a positive number. All three points are numerators over
`den`. -/
structure RoundingInterval where
  low : Nat
  value : Nat
  high : Nat
  den : Nat
  /-- Whether the ends belong to the interval. -/
  closed : Bool

/-- The interval of `mantissa · 2 ^ exponent`. Below a power of two the numbers lie twice as
close, so there the lower end is nearer. -/
def roundingInterval (mantissa : Nat) (exponent : Int) : RoundingInterval :=
  let below := if mantissa = twoTo 52 ∧ leastExponent < exponent then 1 else 2
  let quarter := exponent - 2
  let unit := twoTo quarter.toNat
  { low := (4 * mantissa - below) * unit
    value := 4 * mantissa * unit
    high := (4 * mantissa + 2) * unit
    den := twoTo (-quarter).toNat
    closed := mantissa % 2 == 0 }

/-- Whether `n · 10 ^ exponent` rounds to the number. -/
def RoundingInterval.holds (i : RoundingInterval) (n : Nat) (exponent : Int) : Bool :=
  let point := n * tenTo exponent.toNat * i.den
  let scale := tenTo (-exponent).toNat
  if i.closed then i.low * scale ≤ point && point ≤ i.high * scale
  else i.low * scale < point && point < i.high * scale

/-- The multiple of `10 ^ exponent` nearest to the number among those that round to it. -/
def RoundingInterval.nearest? (i : RoundingInterval) (exponent : Int) : Option Nat :=
  let num := i.value * tenTo (-exponent).toNat
  let den := i.den * tenTo exponent.toNat
  let floor := num / den
  match decide (floor ≠ 0) && i.holds floor exponent, i.holds (floor + 1) exponent with
  | true, true => some (roundQuotient num den)
  | true, false => some floor
  | false, true => some (floor + 1)
  | false, false => none

/-- The coefficient without the zeros at its end, which go into the exponent; `fuel` bounds
their number. -/
def dropZeros : Nat → Nat → Int → Nat × Int
  | 0, n, exponent => (n, exponent)
  | fuel + 1, n, exponent =>
    if n ≠ 0 ∧ n % 10 = 0 then dropZeros fuel (n / 10) (exponent + 1) else (n, exponent)

/-- The fewest digits that read back as the positive number `mantissa · 2 ^ exponent`: a
coefficient, not a multiple of ten, and a power of ten. -/
def shortest (mantissa : Nat) (exponent : Int) : Nat × Int :=
  let i := roundingInterval mantissa exponent
  -- 30103 / 100000 is the logarithm of two; the first power tried is greater than the number
  let top : Int := ((Nat.log2 mantissa : Int) + exponent) * 30103 / 100000 + 2
  -- 17 digits always suffice, so one of the powers has a multiple in the interval
  let powers := (List.range 24).map fun (k : Nat) => top - k
  match powers.findSome? fun power => (i.nearest? power).map (·, power) with
  | some (n, e) => dropZeros 20 n e
  | none => (0, 0)

-- ---------------------------------------------------------------------------
-- The layout
-- ---------------------------------------------------------------------------

/-- How a floating point number is laid out. -/
structure FloatStyle where
  /-- The least decimal exponent that is written without an exponent. -/
  positionalFrom : Int := -4
  /-- The decimal exponent from which on the exponent is written. -/
  positionalBelow : Int := 16
  nan : Text := "nan".toList
  infinity : Text := "inf".toList

/-- The layout in messages and in rendered values. -/
def FloatStyle.plain : FloatStyle := {}

/-- The layout in JSON. -/
def FloatStyle.json : FloatStyle := { nan := "NaN".toList, infinity := "Infinity".toList }

/-- The decimal exponent as text: a sign and at least two digits. -/
def exponentText (exponent : Int) : Text :=
  let digits := Nat.toDigits 10 exponent.natAbs
  (if exponent < 0 then '-' else '+') :: List.replicate (2 - digits.length) '0' ++ digits

/-- The number `coefficient · 10 ^ exponent`, laid out. At least one digit stands behind the
point if there is no exponent. -/
def layOut (style : FloatStyle) (coefficient : Nat) (exponent : Int) : Text :=
  let digits := Nat.toDigits 10 coefficient
  let leading := exponent + digits.length - 1
  if style.positionalFrom ≤ leading ∧ leading < style.positionalBelow then
    if 0 ≤ exponent then digits ++ List.replicate exponent.toNat '0' ++ ['.', '0']
    else if 0 ≤ leading then
      digits.take (leading.toNat + 1) ++ '.' :: digits.drop (leading.toNat + 1)
    else '0' :: '.' :: List.replicate (-leading - 1).toNat '0' ++ digits
  else
    let fraction := digits.drop 1
    digits.take 1 ++ (if fraction.isEmpty then [] else '.' :: fraction) ++
      'e' :: exponentText leading

/-- A floating point number as text. -/
def floatText (style : FloatStyle) : Binary64 → Text
  | .nan => style.nan
  | .infinity negative => (if negative then ['-'] else []) ++ style.infinity
  | .finite negative mantissa exponent =>
    (if negative then ['-'] else []) ++
      if mantissa = 0 then "0.0".toList
      else
        let (coefficient, power) := shortest mantissa exponent
        layOut style coefficient power

end EventLoom.Number
