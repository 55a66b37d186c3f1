import TablePipeline.Datum.Equal
import TablePipeline.Fault.Eval

/-!
Data as keys. A key is a tuple of data that all can be keys; lists and records cannot. Equal keys
have equal hashes: a number is hashed by its value alone.
-/
namespace TablePipeline

/-- Mix two hashes. -/
def mixHash (a b : Nat) : Nat := (a * 1000003 + b + 7) % 2305843009213693951

namespace Number

/-- The hash of a number's value: an integral value is hashed as the integer it is. -/
def hash : Number → Nat
  | int i => mixHash 1 (i % 2305843009213693951).toNat
  | float x =>
    match x.toInt? with
    | some i => mixHash 1 (i % 2305843009213693951).toNat
    | none =>
      match x with
      | .nan _ => 0
      | .infinite negative => if negative then 314159 else 271828
      | .finite negative mantissa exponent =>
        mixHash (mixHash mantissa exponent.natAbs) (if negative then 1 else 0)

end Number

namespace Datum

variable {φ : Type} [FunctionText φ]

mutual

/-- The first part of a datum that keeps it from being a key. -/
def unhashable? : Datum φ → Option String
  | list _ => some "list"
  | record _ => some "dict"
  | tuple items => unhashableAmong? items
  | _ => none

def unhashableAmong? : List (Datum φ) → Option String
  | [] => none
  | d :: rest =>
    match unhashable? d with
    | some kind => some kind
    | none => unhashableAmong? rest

end

/-- Fail on a datum that cannot be a key. -/
def requireKey (d : Datum φ) : Except EvalFault Unit :=
  match unhashable? d with
  | some kind => .error (.unhashable kind)
  | none => .ok ()

mutual

/-- A hash that equal data share. -/
def hash : Datum φ → Nat
  | text s => mixHash 2 (s.toList.foldl (fun h c => mixHash h c.toNat) 0)
  | tuple items => mixHash 3 (hashItems items)
  | list items => mixHash 4 (hashItems items)
  | date d => mixHash 5 d.ordinal
  | datetime t => mixHash 6 t.instant
  | duration d => mixHash 7 d.microseconds.natAbs
  | d =>
    match d.number? with
    | some n => n.hash
    | none => 0

def hashItems : List (Datum φ) → Nat
  | [] => 0
  | d :: rest => mixHash (hash d) (hashItems rest)

end

end Datum

/-- The key of a row in a group or a join. -/
abbrev Key := List Value

namespace Key

def equal (a b : Key) : Bool := Datum.equalItems a b

/-- A key with no value in one of its parts matches nothing in a join. -/
def hasNull (key : Key) : Bool := key.any (·.isNull)

def hash (key : Key) : Nat := Datum.hashItems key

/-- Fail on a key that cannot be looked up. -/
def check (key : Key) : Except EvalFault Unit := (Datum.tuple key).requireKey

end Key

end TablePipeline
