import TablePipeline.Datum.Arithmetic
import TablePipeline.Func.Basic

/-!
The built-in aggregates: functions of the list of values that one column has in a group. Missing
values are left out by all of them but `first` and `last`, which give nothing for whatever counts as
false.
-/
namespace TablePipeline

namespace Aggregate

def present (vs : List Value) : List Value := vs.filter fun v => !v.isNull

/-- The first of the values that no later one stands before in the relation. -/
def extreme (r : Relation) : List Value → Except EvalFault Value
  | [] => .ok .null
  | v :: vs =>
    vs.foldlM (fun best w => do if ← Datum.related r w best then pure w else pure best) v

/-- The sum from left to right, starting at the integer 0. -/
def total (vs : List Value) : Except EvalFault Value := vs.foldlM Datum.add (.int 0)

def min (vs : List Value) : Except EvalFault Value := extreme .lt (present vs)
def max (vs : List Value) : Except EvalFault Value := extreme .gt (present vs)

def sum (vs : List Value) : Except EvalFault Value :=
  if (present vs).isEmpty then .ok .null else total (present vs)

/-- The sum divided by the number of values. -/
def avg (vs : List Value) : Except EvalFault Value :=
  if (present vs).isEmpty then .ok .null
  else do
    let all ← total (present vs)
    match all.number? with
    | some n => .ok (Datum.ofNumber (← n.divCount (present vs).length))
    | none => .ok all

def count (vs : List Value) : Except EvalFault Value := .ok (.int (present vs).length)
def first (v : Value) : Except EvalFault Value := if v.truth then v.itemAt 0 else .ok .null

def last (v : Value) : Except EvalFault Value :=
  if !v.truth then .ok .null
  else
    match v with
    | .list items | .tuple items => .ok (items.getLast?.getD .null)
    | .text s => .ok (.text (String.ofList (s.toList.drop (s.length - 1))))
    | .record _ => .error (.missingKey "-1")
    | v => .error (.notSubscriptable v.qualifiedKind)

end Aggregate

/-- An aggregate as a function of one list. -/
def Func.aggregate (name : String) (apply : List Value → Except EvalFault Value) : Func :=
  .unary name fun v => do
    let vs ← v.elements.mapError Fault.eval
    (apply vs).mapError Fault.eval

namespace Aggregate

def funcs : List Func := [
  .aggregate "agg_min" min, .aggregate "agg_max" max, .aggregate "agg_sum" sum,
  .aggregate "agg_avg" avg, .aggregate "agg_count" count,
  .unary "agg_first" fun v => (first v).mapError Fault.eval,
  .unary "agg_last" fun v => (last v).mapError Fault.eval]

/-- The built-in aggregate of a name. -/
def byName? (name : String) : Option Func :=
  let name := if name == "mean" then "avg" else name
  funcs.find? fun f => f.name? == some ("agg_" ++ name)

/-- The function that an argument of `aggregate` stands for. -/
def resolve (arg : Arg) : Except Fault Func :=
  match arg with
  | .func f => .ok f
  | .text name =>
    match byName? name with
    | some f => .ok f
    | none => .error (.schema (.unknownAggregate arg.literal))
  | _ => .error (.schema (.unknownAggregate arg.literal))

/-- How the columns of an aggregate are called: its name without the mark of the built-in ones. -/
def label (arg : Arg) : String :=
  match arg with
  | .text name => name
  | .func f =>
    let name := f.label
    if name.startsWith "agg_" then String.ofList (name.toList.drop 4) else name
  | _ => arg.kind

end Aggregate

end TablePipeline
