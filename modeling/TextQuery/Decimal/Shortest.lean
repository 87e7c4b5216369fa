/-!
# Shortest decimals

A finite binary floating-point number with 53 bits of precision, read from a decimal and written
with the fewest digits that read back as the same number. Everything is exact arithmetic on natural
numbers: a number is `mantissa · 2 ^ exponent`, and a decimal `digits · 10 ^ exponent`.
-/

namespace TextQuery.Decimal

/-- A fraction of natural numbers. -/
structure Ratio where
  num : Nat
  den : Nat

/-- `base ^ exponent` as a fraction. -/
def Ratio.ofPower (base : Nat) (exponent : Int) : Ratio :=
  match exponent with
  | .ofNat n => ⟨base.pow n, 1⟩
  | .negSucc n => ⟨1, base.pow (n + 1)⟩

/-- The product of two fractions. -/
def Ratio.mul (a b : Ratio) : Ratio := ⟨a.num * b.num, a.den * b.den⟩

/-- The product with a natural number. -/
def Ratio.scale (a : Ratio) (n : Nat) : Ratio := ⟨n * a.num, a.den⟩

/-- Whether `a < b`. -/
def Ratio.lt (a b : Ratio) : Bool := a.num * b.den < b.num * a.den

/-- Whether `a ≤ b`. -/
def Ratio.le (a b : Ratio) : Bool := a.num * b.den ≤ b.num * a.den

/-- The natural number nearest to a fraction; of two equally near ones, the even one. -/
def Ratio.round (a : Ratio) : Nat :=
  let quotient := a.num / a.den
  let twice := 2 * (a.num % a.den)
  if twice < a.den then quotient
  else if a.den < twice then quotient + 1
  else if quotient % 2 == 0 then quotient else quotient + 1

/-- The distance between two fractions, over the product of their denominators. -/
def Ratio.distance (a b : Ratio) : Nat :=
  let x := a.num * b.den
  let y := b.num * a.den
  if x ≤ y then y - x else x - y

/-- The number of digits of `n` in `base`, at least 1. -/
def digitCount (base n : Nat) : Nat := (Nat.toDigits base n).length

/-- A positive binary number: `mantissa · 2 ^ exponent`, with a full mantissa unless the exponent is
the least one. -/
structure Binary where
  mantissa : Nat
  exponent : Int

namespace Binary

/-- Bits of precision. -/
def precision : Nat := 53

/-- The least full mantissa. -/
def leastFull : Nat := Nat.pow 2 (precision - 1)

/-- The least exponent. -/
def minExponent : Int := -1074

/-- The greatest exponent. -/
def maxExponent : Int := 971

/-- The greatest exponent, at least the least one, at which `r` has a full mantissa. -/
def exponentFor (r : Ratio) : Int :=
  let guess : Int := (digitCount 2 r.num : Int) - digitCount 2 r.den - precision
  let fits (e : Int) : Bool := (Ratio.ofPower 2 (e + (precision - 1))).le r
  let e := if fits (guess + 1) then guess + 1 else if fits guess then guess else guess - 1
  max e minExponent

/-- The number nearest to a positive fraction, or none when it is out of range. -/
def nearest? (r : Ratio) : Option Binary :=
  let e := exponentFor r
  let m := (r.mul (Ratio.ofPower 2 (-e))).round
  let b : Binary := if m == 2 * leastFull then ⟨leastFull, e + 1⟩ else ⟨m, e⟩
  if maxExponent < b.exponent then none else some b

/-- The value as a fraction. -/
def toRatio (b : Binary) : Ratio := (Ratio.ofPower 2 b.exponent).scale b.mantissa

/-- Whether the neighbour below is only half as far away as the one above. -/
def isNarrowBelow (b : Binary) : Bool :=
  b.mantissa == leastFull && minExponent < b.exponent

/-- Whether a fraction reads back as `b`: it lies between the midpoints to the two neighbours, which
count as inside when the mantissa is even. -/
def reads (b : Binary) (r : Ratio) : Bool :=
  let low : Ratio :=
    if b.isNarrowBelow then (Ratio.ofPower 2 (b.exponent - 2)).scale (4 * b.mantissa - 1)
    else (Ratio.ofPower 2 (b.exponent - 1)).scale (2 * b.mantissa - 1)
  let high := (Ratio.ofPower 2 (b.exponent - 1)).scale (2 * b.mantissa + 1)
  if b.mantissa % 2 == 0 then low.le r && r.le high else low.lt r && r.lt high

end Binary

/-- A decimal: `digits · 10 ^ exponent`. -/
structure Numeral where
  digits : Nat
  exponent : Int

/-- The value as a fraction. -/
def Numeral.toRatio (d : Numeral) : Ratio := (Ratio.ofPower 10 d.exponent).scale d.digits

/-- The number nearest to a positive decimal, or none when it is out of range. A decimal with its
first digit above the 400th place is out of range, and one with it below the 400th place after the
point is nearest to 0. -/
def Numeral.nearest? (d : Numeral) : Option Binary :=
  let top : Int := d.exponent + digitCount 10 d.digits
  if 400 < top then none
  else if top < -400 then some ⟨0, Binary.minExponent⟩
  else Binary.nearest? d.toRatio

/-- The multiple of `10 ^ exponent` next to `b` that reads back as `b`, the nearer one if both
neighbours do. -/
def onGrid? (b : Binary) (exponent : Int) : Option Numeral :=
  let value := b.toRatio
  let scaled := value.mul (Ratio.ofPower 10 (-exponent))
  let below : Numeral := ⟨scaled.num / scaled.den, exponent⟩
  let above : Numeral := ⟨scaled.num / scaled.den + 1, exponent⟩
  match b.reads below.toRatio, b.reads above.toRatio with
  | true, true =>
    let down := value.distance below.toRatio
    let up := value.distance above.toRatio
    some (if down * above.toRatio.den ≤ up * below.toRatio.den then below else above)
  | true, false => some below
  | false, true => some above
  | false, false => none

/-- Searches finer and finer grids, starting at `10 ^ exponent`. -/
def searchGrid (b : Binary) : Nat → Int → Numeral
  | 0, exponent => (onGrid? b exponent).getD ⟨b.mantissa, 0⟩
  | n + 1, exponent =>
    match onGrid? b exponent with
    | some d => d
    | none => searchGrid b n (exponent - 1)

/-- The decimal with the fewest digits that reads back as `b`. -/
def shortest (b : Binary) : Numeral :=
  let value := b.toRatio
  let top : Int := (digitCount 10 value.num : Int) - digitCount 10 value.den
  searchGrid b 20 (top + 1)

/-- A decimal without an exponent: digits, a point, and at least one digit after it. -/
def positional (d : Numeral) : String :=
  let digits := Nat.toDigits 10 d.digits
  match d.exponent with
  | .ofNat n => String.ofList (digits ++ List.replicate n '0') ++ ".0"
  | .negSucc n =>
    let places := n + 1
    let padded := List.replicate (places + 1 - digits.length) '0' ++ digits
    let (whole, fraction) := padded.splitAt (padded.length - places)
    String.ofList whole ++ "." ++ String.ofList fraction

end TextQuery.Decimal
