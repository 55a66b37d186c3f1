import TablePipeline.Datum.Basic

/-!
Equality of data. Numbers are equal when their values are, whatever their types, and a NaN equals
nothing. A day never equals a time of that day. Records are equal when they have the same fields in
any order. What stands inside other data, and what is looked up, matches what is equal to it or one
and the same NaN.
-/
namespace TablePipeline

/-- A number that a datum is: truth values count as 0 and 1. -/
inductive Number where
  | int (i : Int)
  | float (x : Binary64)
  deriving DecidableEq

namespace Number

def isNaN : Number → Bool
  | int _ => false
  | float x => x.isNaN

def isNegative : Number → Bool
  | int i => i < 0
  | float x => x.isNegative

/-- A finite number as `num / 2 ^ shift`. -/
def toDyadic? : Number → Option (Int × Nat)
  | int i => some (i, 0)
  | float x => x.toDyadic?

/-- The exact order of two numbers; a NaN has none. -/
def compare? (a b : Number) : Option Ordering :=
  if a.isNaN || b.isNaN then none
  else
    match a.toDyadic?, b.toDyadic? with
    | some (m, s), some (n, t) => some (compare (m * Int.pow 2 t) (n * Int.pow 2 s))
    | some _, none => some (if b.isNegative then .gt else .lt)
    | none, some _ => some (if a.isNegative then .lt else .gt)
    | none, none =>
      some (if a.isNegative == b.isNegative then .eq else if a.isNegative then .lt else .gt)

end Number

namespace Datum

variable {φ : Type}

def number? : Datum φ → Option Number
  | bool b => some (.int (if b then 1 else 0))
  | int i => some (.int i)
  | float x => some (.float x)
  | _ => none

/-- Equality of data that hold no other data. -/
def scalarEqual : Datum φ → Datum φ → Bool
  | null, null => true
  | text s, text t => s == t
  | date d, date e => d == e
  | datetime t, datetime u => t == u
  | duration d, duration e => d == e
  | path s, path t => s == t
  | a, b =>
    match a.number?, b.number? with
    | some m, some n => m.compare? n == some .eq
    | _, _ => false

/-- Whether two data are one and the same NaN. -/
def sameNaN : Datum φ → Datum φ → Bool
  | float (.nan m), float (.nan n) => m != .unknown && m == n
  | _, _ => false

mutual

/-- Whether two data count as equal. -/
def equal : Datum φ → Datum φ → Bool
  | list xs, b => match b with | list ys => equalItems xs ys | _ => false
  | tuple xs, b => match b with | tuple ys => equalItems xs ys | _ => false
  | record xs, b =>
    match b with
    | record ys => xs.length == ys.length && equalFields xs ys
    | _ => false
  | a, b => scalarEqual a b

def equalItems : List (Datum φ) → List (Datum φ) → Bool
  | [], ys => ys.isEmpty
  | x :: xs, ys => 
    match ys with
    | y :: ys => (sameNaN x y || equal x y) && equalItems xs ys
    | [] => false

/-- Whether every field has an equal one of its name among `ys`. -/
def equalFields : List (String × Datum φ) → List (String × Datum φ) → Bool
  | [], _ => true
  | (name, x) :: xs, ys =>
    (match ys.lookup name with | some y => sameNaN x y || equal x y | none => false) &&
      equalFields xs ys

end

/-- Whether a datum that is looked up is found in another one. -/
def isMatch (a b : Datum φ) : Bool := sameNaN a b || equal a b

end Datum

end TablePipeline
