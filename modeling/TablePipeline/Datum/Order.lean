import TablePipeline.Datum.Equal
import TablePipeline.Fault.Eval
import TablePipeline.Path
import TablePipeline.Text.Surrogate

/-!
Order of data. Numbers have the order of their values, texts the order of their codes, days and
times the order of the calendar, paths the order of their steps; lists and tuples are compared at
the first place where they differ.
All other pairs have no order, and asking for one is a failure. Nothing holds of a NaN.
-/
namespace TablePipeline

inductive Relation where
  | lt
  | le
  | gt
  | ge
  deriving DecidableEq, Repr

namespace Relation

def sign : Relation → String
  | lt => "<"
  | le => "<="
  | gt => ">"
  | ge => ">="

/-- Whether the relation holds between two things in the given order. -/
def holds : Relation → Ordering → Bool
  | lt, o => o == .lt
  | le, o => o != .gt
  | gt, o => o == .gt
  | ge, o => o != .lt

end Relation

namespace Datum

variable {φ : Type} [FunctionText φ]

/-- The order of two data without parts; `some none` if one is a NaN, `none` if the pair has no
order at all. -/
def scalarOrder? : Datum φ → Datum φ → Option (Option Ordering)
  | text s, text t => some (some (Text.order s t))
  | date d, date e => some (some (compare d.ordinal e.ordinal))
  | datetime t, datetime u => some (some (compare t.instant u.instant))
  | duration d, duration e => some (some (compare d.microseconds e.microseconds))
  | path s, path t => some (some ((Path.steps s).compareLex Text.order (Path.steps t)))
  | a, b =>
    match a.number?, b.number? with
    | some m, some n => some (m.compare? n)
    | _, _ => none

def noOrder (r : Relation) (a b : Datum φ) : EvalFault :=
  match a, b with
  | date _, datetime _ | datetime _, date _ => .dayAgainstTime
  | _, _ => .noOrder r.sign a.qualifiedKind b.qualifiedKind

def scalarRelated (r : Relation) (a b : Datum φ) : Except EvalFault Bool :=
  match scalarOrder? a b with
  | some (some o) => .ok (r.holds o)
  | some none => .ok false
  | none => .error (noOrder r a b)

mutual

/-- Whether the relation holds between two data. -/
def related (r : Relation) : Datum φ → Datum φ → Except EvalFault Bool
  | list xs, b =>
    match b with
    | list ys => relatedItems r xs ys
    | _ => .error (noOrder r (list xs) b)
  | tuple xs, b =>
    match b with
    | tuple ys => relatedItems r xs ys
    | _ => .error (noOrder r (tuple xs) b)
  | a, b => scalarRelated r a b

/-- Compare at the first place where two lists differ, or by length. -/
def relatedItems (r : Relation) : List (Datum φ) → List (Datum φ) → Except EvalFault Bool
  | [], ys => .ok (r.holds (if ys.isEmpty then .eq else .lt))
  | x :: xs, ys =>
    match ys with
    | [] => .ok (r.holds .gt)
    | y :: ys => if x.isMatch y then relatedItems r xs ys else related r x y

end

def less (a b : Datum φ) : Except EvalFault Bool := related .lt a b

end Datum

end TablePipeline
