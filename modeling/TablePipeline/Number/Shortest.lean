import TablePipeline.Number.Binary64

/-!
The shortest decimal text of a floating-point number: the fewest significant digits that read back
as the number, and of those the nearest. Positional notation is used from 0.0001 up to below
10 ^ 16, the exponent form elsewhere.
-/
namespace TablePipeline

namespace Decimal

/-- A positive quotient `num / den`. -/
structure Ratio where
  num : Nat
  den : Nat

def Ratio.le (a b : Ratio) : Bool := a.num * b.den ≤ b.num * a.den
def Ratio.lt (a b : Ratio) : Bool := a.num * b.den < b.num * a.den

/-- `count · 10 ^ place`. -/
def Ratio.ofDecimal (count : Nat) (place : Int) : Ratio :=
  ⟨count * Nat.pow 10 place.toNat, Nat.pow 10 (-place).toNat⟩

/-- `count · 2 ^ exponent`. -/
def Ratio.ofBinary (count : Nat) (exponent : Int) : Ratio :=
  ⟨count * Nat.pow 2 exponent.toNat, Nat.pow 2 (-exponent).toNat⟩

/-- The values that round to `mantissa · 2 ^ exponent`: from half a step below to half a step above,
where the step below a power of two is half as wide. The ends belong to it when the mantissa is
even. -/
structure Rounding where
  value : Ratio
  low : Ratio
  high : Ratio
  closed : Bool

def Rounding.of (mantissa : Nat) (exponent : Int) : Rounding where
  value := .ofBinary mantissa exponent
  low :=
    if mantissa == Nat.pow 2 52 && Binary64.minExponent < exponent then
      .ofBinary (4 * mantissa - 1) (exponent - 2)
    else .ofBinary (2 * mantissa - 1) (exponent - 1)
  high := .ofBinary (2 * mantissa + 1) (exponent - 1)
  closed := mantissa % 2 == 0

def Rounding.covers (r : Rounding) (x : Ratio) : Bool :=
  if r.closed then r.low.le x && x.le r.high else r.low.lt x && x.lt r.high

/-- The largest `p` with `10 ^ p ≤ num / den`, found near the estimate from the binary lengths. -/
def leadingPlace (x : Ratio) : Int :=
  let bits : Int := (x.num.log2 : Int) - (x.den.log2 : Int)
  let guess : Int := bits * 30103 / 100000 - 1
  let reaches (p : Int) : Bool := (Ratio.ofDecimal 1 p).le x
  if !reaches (guess + 1) then guess
  else if !reaches (guess + 2) then guess + 1
  else guess + 2

/-- The best of the two neighbours of the value on the grid of step `10 ^ place`. -/
def onGrid? (r : Rounding) (place : Int) : Option Nat :=
  let step := Ratio.ofDecimal 1 place
  let below := r.value.num * step.den / (r.value.den * step.num)
  let lowHit := below != 0 && r.covers (.ofDecimal below place)
  let highHit := r.covers (.ofDecimal (below + 1) place)
  if lowHit && highHit then
    let twice : Ratio := ⟨2 * r.value.num, r.value.den⟩
    let middle := Ratio.ofDecimal (2 * below + 1) place
    if twice.lt middle || (twice.le middle && below % 2 == 0) then some below
    else some (below + 1)
  else if lowHit then some below
  else if highHit then some (below + 1)
  else none

/-- Try grids of `digits`, `digits + 1`, … digits. -/
def search (r : Rounding) (lead : Int) : Nat → Nat → Nat × Int
  | 0, digits => (0, lead - digits + 1)
  | fuel + 1, digits =>
    let place := lead - digits + 1
    match onGrid? r place with
    | some count => (count, place)
    | none => search r lead fuel (digits + 1)

/-- The shortest `count · 10 ^ place` that reads back as `mantissa · 2 ^ exponent`. -/
def shortest (mantissa : Nat) (exponent : Int) : Nat × Int :=
  let r := Rounding.of mantissa exponent
  search r (leadingPlace r.value) 17 1

/-- The digits without trailing zeros. -/
def significant (count : Nat) : List Char :=
  ((Nat.toDigits 10 count).reverse.dropWhile (· == '0')).reverse

/-- The exponent with its sign and at least two digits. -/
def exponentText (e : Int) : List Char :=
  let digits := Nat.toDigits 10 e.natAbs
  (if e < 0 then '-' else '+') :: (if digits.length < 2 then '0' :: digits else digits)

/-- Digits with the point after the first `point` of them: positional when the point stands between
three places before the digits and the sixteenth place, in exponent form otherwise. -/
def layout (digits : List Char) (point : Int) : List Char :=
  if -4 < point && point ≤ 16 then
    if point ≤ 0 then '0' :: '.' :: (List.replicate (-point).toNat '0' ++ digits)
    else
      let whole := digits.take point.toNat
      let filled := whole ++ List.replicate (point.toNat - whole.length) '0'
      let rest := digits.drop point.toNat
      filled ++ '.' :: (if rest.isEmpty then ['0'] else rest)
  else
    match digits with
    | [] => []
    | [d] => d :: 'e' :: exponentText (point - 1)
    | d :: rest => d :: '.' :: (rest ++ 'e' :: exponentText (point - 1))

end Decimal

namespace Binary64

/-- The shortest text that reads back as the number. -/
def text : Binary64 → String
  | nan _ => "nan"
  | infinite negative => if negative then "-inf" else "inf"
  | finite negative mantissa exponent =>
    let body :=
      if mantissa == 0 then ['0', '.', '0']
      else
        let (count, place) := Decimal.shortest mantissa exponent
        let point : Int := place + (Nat.toDigits 10 count).length
        Decimal.layout (Decimal.significant count) point
    String.ofList (if negative then '-' :: body else body)

end Binary64

end TablePipeline
