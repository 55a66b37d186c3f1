/-!
Floating-point numbers of 64 bits as exact values. A finite number is `± mantissa · 2 ^ exponent`;
every operation forms the exact result as a quotient of naturals and rounds it once, to the nearest
number and to an even mantissa on a tie. A NaN has a mark that tells which one it is; an operation
gives one without a mark.
-/
namespace TablePipeline

/-- Which NaN a NaN is. No two are equal, but one is the same as itself wherever it stands. -/
inductive NaNMark where
  /-- It cannot be told from others, and so is the same as none. -/
  | unknown
  /-- A caller's. -/
  | given (number : Nat)
  /-- Made from the row at hand. -/
  | made (number : Nat)
  deriving DecidableEq, Repr

inductive Binary64 where
  | nan (mark : NaNMark := .unknown)
  | infinite (negative : Bool)
  | finite (negative : Bool) (mantissa : Nat) (exponent : Int)
  deriving DecidableEq, Repr

namespace Binary64

/-- The exponent of the smallest numbers. -/
def minExponent : Int := -1074

/-- The exponent of the largest numbers. -/
def maxExponent : Int := 971

def zero (negative : Bool) : Binary64 := .finite negative 0 minExponent

/-- `num / den` in units of `2 ^ exponent`, as a quotient of naturals. -/
def scaled (num den : Nat) (exponent : Int) : Nat × Nat :=
  if 0 ≤ exponent then (num, den * Nat.pow 2 exponent.toNat)
  else (num * Nat.pow 2 (-exponent).toNat, den)

/-- The natural number nearest to `num / den`; a tie goes to the even one. -/
def roundDiv (num den : Nat) : Nat :=
  let whole := num / den
  let rest := num % den
  if den < 2 * rest || (2 * rest == den && whole % 2 == 1) then whole + 1 else whole

/-- The exponent at which `num / den` has a mantissa of 53 bits, or the smallest one. -/
def exponentFor (num den : Nat) : Int :=
  let guess : Int := (num.log2 : Int) - (den.log2 : Int) - 53
  let fits (e : Int) : Bool :=
    let (n, d) := scaled num den e
    n / d < Nat.pow 2 53
  max (if fits guess then guess else guess + 1) minExponent

/-- The number nearest to `num / den`, for a positive `den`. -/
def ofRatio (negative : Bool) (num den : Nat) : Binary64 :=
  if num == 0 then zero negative
  else
    let exponent := exponentFor num den
    let (n, d) := scaled num den exponent
    let mantissa := roundDiv n d
    if mantissa == Nat.pow 2 53 then
      if maxExponent ≤ exponent then .infinite negative
      else .finite negative (Nat.pow 2 52) (exponent + 1)
    else if maxExponent < exponent then .infinite negative
    else .finite negative mantissa exponent

/-- The number nearest to `± mantissa · 2 ^ exponent`. -/
def ofScaled (negative : Bool) (mantissa : Nat) (exponent : Int) : Binary64 :=
  if 0 ≤ exponent then ofRatio negative (mantissa * Nat.pow 2 exponent.toNat) 1
  else ofRatio negative mantissa (Nat.pow 2 (-exponent).toNat)

/-- The number nearest to an integer, infinite beyond the largest number. -/
def ofInt (i : Int) : Binary64 := ofRatio (i < 0) i.natAbs 1

def isNegative : Binary64 → Bool
  | nan _ => false
  | infinite negative => negative
  | finite negative _ _ => negative

def isZero : Binary64 → Bool
  | finite _ mantissa _ => mantissa == 0
  | _ => false

def isNaN : Binary64 → Bool
  | nan _ => true
  | _ => false

def negate : Binary64 → Binary64
  | nan _ => nan
  | infinite negative => infinite !negative
  | finite negative mantissa exponent => finite (!negative) mantissa exponent

def signed (negative : Bool) (mantissa : Nat) : Int :=
  if negative then -(mantissa : Int) else mantissa

/-- A finite number as `num / 2 ^ shift`. -/
def toDyadic? : Binary64 → Option (Int × Nat)
  | finite negative mantissa exponent =>
    some (signed negative (mantissa * Nat.pow 2 exponent.toNat), (-exponent).toNat)
  | _ => none

/-- The integer that a number is, if it is one. -/
def toInt? (x : Binary64) : Option Int :=
  match x.toDyadic? with
  | some (num, shift) =>
    if num % Int.pow 2 shift == 0 then some (num / Int.pow 2 shift) else none
  | none => none

def add : Binary64 → Binary64 → Binary64
  | nan _, _ | _, nan _ => nan
  | infinite a, infinite b => if a == b then infinite a else nan
  | infinite a, finite .. => infinite a
  | finite .., infinite b => infinite b
  | finite n₁ m₁ e₁, finite n₂ m₂ e₂ =>
    if m₁ == 0 && m₂ == 0 then zero (n₁ && n₂)
    else
      let low := min e₁ e₂
      let sum := signed n₁ (m₁ * Nat.pow 2 (e₁ - low).toNat) +
        signed n₂ (m₂ * Nat.pow 2 (e₂ - low).toNat)
      if sum == 0 then zero false else ofScaled (sum < 0) sum.natAbs low

def sub (x y : Binary64) : Binary64 := add x y.negate

def mul : Binary64 → Binary64 → Binary64
  | nan _, _ | _, nan _ => nan
  | infinite a, infinite b => infinite (a != b)
  | infinite a, finite b m _ => if m == 0 then nan else infinite (a != b)
  | finite a m _, infinite b => if m == 0 then nan else infinite (a != b)
  | finite n₁ m₁ e₁, finite n₂ m₂ e₂ => ofScaled (n₁ != n₂) (m₁ * m₂) (e₁ + e₂)

/-- The quotient by a number that is not zero. -/
def div : Binary64 → Binary64 → Binary64
  | nan _, _ | _, nan _ => nan
  | infinite _, infinite _ => nan
  | infinite a, finite b _ _ => infinite (a != b)
  | finite a _ _, infinite b => zero (a != b)
  | finite n₁ m₁ e₁, finite n₂ m₂ e₂ =>
    let shift := e₁ - e₂
    ofRatio (n₁ != n₂) (m₁ * Nat.pow 2 shift.toNat) (m₂ * Nat.pow 2 (-shift).toNat)

/-- The remainder with the sign of the dividend, for a divisor that is not zero. -/
def truncRem : Binary64 → Binary64 → Binary64
  | nan _, _ | _, nan _ => nan
  | infinite _, _ => nan
  | x, infinite _ => x
  | finite n₁ m₁ e₁, finite _ m₂ e₂ =>
    let low := min e₁ e₂
    let rest := (m₁ * Nat.pow 2 (e₁ - low).toNat) % (m₂ * Nat.pow 2 (e₂ - low).toNat)
    ofScaled n₁ rest low

/-- The remainder with the sign of the divisor, for a divisor that is not zero. -/
def floorMod (x y : Binary64) : Binary64 :=
  let rest := truncRem x y
  if rest.isZero then zero y.isNegative
  else if y.isNegative != rest.isNegative then add rest y
  else rest

end Binary64

end TablePipeline
