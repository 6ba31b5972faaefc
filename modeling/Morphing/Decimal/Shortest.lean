import Morphing.Text.Basic

/-!
# Shortest decimals

A decimal numeral that is kept in double precision is shown with as few digits as identify the
double: of all numerals with the least number of digits that round to it, the nearest. Doubles are
multiplied and divided exactly, on natural numbers, and then rounded.
-/

namespace Morphing

/-- The number `± digits · 10 ^ exponent`. -/
structure Decimal where
  negative : Bool
  digits : Nat
  exponent : Int
deriving Repr

/-- The fraction `num / den`. -/
structure Ratio where
  num : Nat
  den : Nat

namespace Ratio

/-- `digits · base ^ exponent`. -/
def scaled (digits base : Nat) (exponent : Int) : Ratio :=
  if 0 ≤ exponent then ⟨digits * base.pow exponent.toNat, 1⟩
  else ⟨digits, base.pow (-exponent).toNat⟩

/-- `r / base ^ exponent`. -/
def unscale (r : Ratio) (base : Nat) (exponent : Int) : Ratio :=
  if 0 ≤ exponent then ⟨r.num, r.den * base.pow exponent.toNat⟩
  else ⟨r.num * base.pow (-exponent).toNat, r.den⟩

/-- The whole part. -/
def floor (r : Ratio) : Nat := r.num / r.den

/-- The nearest whole number, and of two the even one. -/
def roundEven (r : Ratio) : Nat :=
  let q := r.floor
  let twice := 2 * (r.num % r.den)
  if twice < r.den then q
  else if r.den < twice then q + 1
  else q + q % 2

/-- `a ≤ b`. -/
def le (a b : Ratio) : Bool := a.num * b.den ≤ b.num * a.den

/-- `a < b`. -/
def lt (a b : Ratio) : Bool := a.num * b.den < b.num * a.den

end Ratio

/-- The double `significand · 2 ^ exponent`. -/
structure Double where
  significand : Nat
  exponent : Int
deriving DecidableEq, Repr

namespace Double

/-- The exponent of the smallest doubles. -/
def minExponent : Int := -1074

/-- The largest exponent of a double. -/
def maxExponent : Int := 971

/-- The double nearest to a positive fraction, unless that is too large for any. -/
def nearest? (r : Ratio) : Option Double :=
  let magnitude := (Nat.log2 r.num : Int) - Nat.log2 r.den
  let low := max (magnitude - 53) minExponent
  let exponent := if Nat.pow 2 53 ≤ (r.unscale 2 low).floor then low + 1 else low
  let significand := (r.unscale 2 exponent).roundEven
  let d : Double :=
    if significand = Nat.pow 2 53 then ⟨Nat.pow 2 52, exponent + 1⟩ else ⟨significand, exponent⟩
  if d.exponent ≤ maxExponent then some d else none

/-- The value of a double. -/
def value (d : Double) : Ratio := .scaled d.significand 2 d.exponent

/-- The double nearest to a product, unless that is too large for any. -/
def mul? (a b : Double) : Option Double :=
  nearest? ⟨a.value.num * b.value.num, a.value.den * b.value.den⟩

/-- The double nearest to a quotient, unless that is too large for any. -/
def div? (a b : Double) : Option Double :=
  nearest? ⟨a.value.num * b.value.den, a.value.den * b.value.num⟩

/-- The largest power of ten that is a double, up to rounding. -/
def maxPower : Nat := 308

/-- The double nearest to a power of ten. -/
def power? (k : Nat) : Option Double := nearest? (.scaled 1 10 k)

/-- Divide by a power of ten, rounding after every division by the largest one and at the end. -/
def shrink? (d : Double) (k : Nat) : Option Double :=
  if _h : maxPower < k then
    if d.significand = 0 then some d
    else do
      let d ← d.div? (← power? maxPower)
      shrink? d (k - maxPower)
  else do d.div? (← power? k)
termination_by k
decreasing_by simp only [maxPower] at *; omega

/-- The double that stands for `n · 10 ^ exponent`. Both factors are rounded before their product,
or their quotient, is, so the result can be one or two doubles away from the nearest. -/
def ofScientific? (n : Nat) (exponent : Int) : Option Double := do
  let d ← nearest? ⟨n, 1⟩
  if d.significand = 0 then return d
  else if exponent < 0 then d.shrink? (-exponent).toNat
  else if maxPower < exponent.toNat then none
  else d.mul? (← power? exponent.toNat)

/-- Whether a fraction rounds to a double. Both ends of the interval belong to it if the
significand is even. -/
def accepts (d : Double) (r : Ratio) : Bool :=
  let narrow := d.significand = Nat.pow 2 52 ∧ minExponent < d.exponent
  let low := Ratio.scaled (4 * d.significand - if narrow then 1 else 2) 2 (d.exponent - 2)
  let high := Ratio.scaled (4 * d.significand + 2) 2 (d.exponent - 2)
  if d.significand % 2 = 0 then low.le r && r.le high else low.lt r && r.lt high

/-- The numeral of the form `n · 10 ^ k` that rounds to a double and is nearest to it, if there is
one for this `k`. Of two that are equally near the even one counts. -/
def onGrid? (d : Double) (k : Int) : Option Nat :=
  let scaled := d.value.unscale 10 k
  [scaled.roundEven, scaled.floor, scaled.floor + 1].find? fun n => d.accepts (.scaled n 10 k)

/-- The decimal exponents to try for a double, the coarsest grid first. -/
def grids (d : Double) : List Int :=
  let v := d.value
  let magnitude := ((Nat.log2 v.num : Int) - Nat.log2 v.den) * 30103 / 100000
  (List.range 22).map fun i : Nat => magnitude + 2 - i

/-- Digits and decimal exponent of the shortest numeral of a double. -/
def shortest (d : Double) : Nat × Int :=
  let hits := d.grids.filterMap fun k =>
    match d.onGrid? k with
    | some 0 | none => none
    | some n => some (n, k)
  hits.headD (d.significand, d.exponent)

end Double

namespace Decimal

/-- Two decimals are the same if their values are; a zero has no sign. -/
instance : BEq Decimal where
  beq a b := (a.digits == 0 && b.digits == 0) ||
    (a.negative == b.negative && a.digits == b.digits && a.exponent == b.exponent)

/-- The shortest numeral of a double. -/
def ofDouble (negative : Bool) (d : Double) : Decimal :=
  if d.significand = 0 then ⟨negative, 0, 0⟩ else ⟨negative, d.shortest.1, d.shortest.2⟩

/-- Write digits with a point before the last `places` of them, and at least one digit before it. -/
def pointed (digits : Text) (places : Nat) : Text :=
  let padded := List.replicate (places + 1 - digits.length) '0' ++ digits
  padded.take (padded.length - places) ++ '.' :: padded.drop (padded.length - places)

/-- Write digits with a point after the first one and a power of ten. -/
def scientific (digits : Text) (power : Int) : Text :=
  let mantissa := if digits.length ≤ 1 then digits else pointed digits (digits.length - 1)
  let sign := if power < 0 then '-' else '+'
  mantissa ++ ['e', sign] ++ Nat.toDigits 10 power.natAbs

/-- A decimal in writing, always with a point or a power of ten. Numbers from `10 ^ -5` up to
`10 ^ 16` are written without a power of ten. -/
def render (d : Decimal) : Text :=
  let sign := if d.negative then ['-'] else []
  let digits := Nat.toDigits 10 d.digits
  let places := (digits.length : Int) + d.exponent
  if places ≤ -5 ∨ 16 < places then sign ++ scientific digits (places - 1)
  else if 0 ≤ d.exponent then
    sign ++ digits ++ List.replicate d.exponent.toNat '0' ++ ['.', '0']
  else sign ++ pointed digits (-d.exponent).toNat

end Decimal

end Morphing
