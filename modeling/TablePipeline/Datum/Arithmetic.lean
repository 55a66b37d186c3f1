import TablePipeline.Datum.Order

/-!
Arithmetic on data. Truth values are the integers 0 and 1. An operation on two integers is exact; if
one operand is a floating-point number the other becomes one too, and fails to if it is too large.
Days and times have differences, and so have lengths of time; a number multiplies a length of time,
and an integer repeats a text or a list.
-/
namespace TablePipeline

namespace Number

def toBinary64 : Number → Except EvalFault Binary64
  | float x => .ok x
  | int i =>
    match Binary64.ofInt i with
    | .infinite _ => .error .integerTooLarge
    | x => .ok x

def isZero : Number → Bool
  | int i => i == 0
  | float x => x.isZero

/-- Apply an operation to two numbers. -/
def combine (onInts : Int → Int → Int) (onFloats : Binary64 → Binary64 → Binary64) :
    Number → Number → Except EvalFault Number
  | int a, int b => .ok (int (onInts a b))
  | a, b => do .ok (float (onFloats (← a.toBinary64) (← b.toBinary64)))

def add : Number → Number → Except EvalFault Number := combine (· + ·) Binary64.add
def sub : Number → Number → Except EvalFault Number := combine (· - ·) Binary64.sub
def mul : Number → Number → Except EvalFault Number := combine (· * ·) Binary64.mul

/-- The remainder with the sign of the divisor. -/
def floorMod (a b : Number) : Except EvalFault Number :=
  match a, b with
  | int m, int n => if n == 0 then .error .zeroModulo else .ok (int (m.fmod n))
  | _, _ => do
    let x ← a.toBinary64
    let y ← b.toBinary64
    if y.isZero then .error .zeroFloatModulo else .ok (float (x.floorMod y))

/-- The quotient by a positive count, always a floating-point number. -/
def divCount (a : Number) (count : Nat) : Except EvalFault Number :=
  match a with
  | int i =>
    match Binary64.ofRatio (i < 0) i.natAbs count with
    | .infinite _ => .error .quotientTooLarge
    | x => .ok (float x)
  | float x => .ok (float (x.div (Binary64.ofInt count)))

end Number

namespace Datum

variable {φ : Type} [FunctionText φ]

def ofNumber : Number → Datum φ
  | .int i => int i
  | .float x => float x

/-- Apply an operation of numbers; other data have no such operation. -/
def arithmetic (sign : String) (op : Number → Number → Except EvalFault Number)
    (a b : Datum φ) : Except EvalFault (Datum φ) :=
  match a.number?, b.number? with
  | some m, some n => do .ok (ofNumber (← op m n))
  | _, _ => .error (.noOperation sign a.qualifiedKind b.qualifiedKind)

def add : Datum φ → Datum φ → Except EvalFault (Datum φ) := arithmetic "+" Number.add

/-- A length of time of so many microseconds, if it is not too long. -/
def durationOf (microseconds : Int) : Except EvalFault (Datum φ) :=
  let d : Duration := ⟨microseconds⟩
  if d.days < -2147483648 || 2147483647 < d.days then .error .integerBeyondWord
  else if 999999999 < d.days.natAbs then .error (.tooManyDays d.days)
  else .ok (duration d)

/-- The integer nearest to `num / den`, an even one on a tie. -/
def nearest (num : Int) (den : Nat) : Int :=
  let n : Int := Binary64.roundDiv num.natAbs den
  if num < 0 then -n else n

/-- The length of time that is a floating-point number of others. -/
def durationTimes (x : Binary64) (d : Duration) : Except EvalFault (Datum φ) :=
  match x with
  | .nan _ => .error .ratioOfNaN
  | .infinite _ => .error .ratioOfInfinity
  | x =>
    match x.toDyadic? with
    | some (num, shift) => durationOf (nearest (d.microseconds * num) (Nat.pow 2 shift))
    | none => .error .ratioOfNaN

/-- The number of times that something is repeated. -/
def repetitions (n : Int) : Except EvalFault Nat :=
  if n < -9223372036854775808 || 9223372036854775807 < n then .error .repeatedTooOften
  else .ok n.toNat

/-- A list so many times over. -/
def repeated {α : Type} (count : Nat) (items : List α) : List α :=
  if items.isEmpty then [] else (List.replicate count items).flatten

/-- The product of a number and a datum. -/
def mul (a b : Datum φ) : Except EvalFault (Datum φ) :=
  match a, b with
  | int n, text s => do .ok (text (String.ofList (repeated (← repetitions n) s.toList)))
  | int n, list items => do .ok (list (repeated (← repetitions n) items))
  | int n, tuple items => do .ok (tuple (repeated (← repetitions n) items))
  | int n, duration d => durationOf (n * d.microseconds)
  | float _, text _ | float _, list _ | float _, tuple _ =>
    .error (.repeatedByFloat a.qualifiedKind)
  | float x, duration d => durationTimes x d
  | a, b => arithmetic "*" Number.mul a b

/-- The difference of two numbers, days, times or lengths of time. -/
def sub : Datum φ → Datum φ → Except EvalFault (Datum φ)
  | date d, date e => .ok (duration (.ofParts ((d.ordinal : Int) - e.ordinal) 0 0))
  | datetime t, datetime u => .ok (duration ⟨(t.instant : Int) - u.instant⟩)
  | duration d, duration e => durationOf (d.microseconds - e.microseconds)
  | a, b => arithmetic "-" Number.sub a b

end Datum

end TablePipeline
