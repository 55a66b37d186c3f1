import TablePipeline.Group.Accumulator
import TablePipeline.Join.Plan
import TablePipeline.Options

/-!
Plans: everything that a run needs, frozen. A plan puts out rows, groups of rows, or joined rows.
-/
namespace TablePipeline

inductive PlanWork where
  /-- Some slots of each row that the transform accepts. -/
  | rows (source : Source) (transform : RowTransform) (slots : List Nat)
  | groups (source : Source) (transform : RowTransform) (plan : GroupPlan)
  | join (plan : JoinPlan)

namespace PlanWork

def kind : PlanWork → String
  | rows .. => "rows"
  | groups .. => "aggregate"
  | join _ => "join"

/-- What the work adds to the record of its plan. -/
def describe : PlanWork → List (String × Arg)
  | rows source transform slots =>
    [("source", .text source.uri), ("steps", GroupPlan.textsValue transform.describe)] ++
      (if slots.isEmpty then [] else [("output_slots", GroupPlan.numbersValue slots)])
  | groups source transform plan =>
    [("source", .text source.uri), ("steps", GroupPlan.textsValue transform.describe),
      ("group", plan.describe)]
  | join plan => [("join", plan.describe)]

end PlanWork

structure Plan where
  names : List Value
  options : RunOptions
  batchSize : Nat
  work : PlanWork

namespace Plan

/-- The plan as a record. -/
def describe (p : Plan) : Arg :=
  .record ([
    ("kind", .text p.work.kind),
    ("columns", .list (Datum.ofValues p.names)),
    ("options", .record [
      ("num_workers", .int p.options.workers),
      ("batch_size", .int p.batchSize),
      ("raise_on_error", .bool p.options.raiseOnError),
      ("preserve_order", .bool p.options.preserveOrder)])] ++ p.work.describe)

/-- The plan in one line. -/
def text (p : Plan) : String :=
  s!"Plan(kind={p.work.kind}, columns={(Datum.list p.names).literal})"

/-- The step of a plan that puts out rows: the chosen slots of a row that the transform accepts. -/
def rowStep (transform : RowTransform) (slots : List Nat) (values : Row) :
    Except Fault (List Row) := do
  match ← transform.run values with
  | some row => .ok [← row.cells slots]
  | none => .ok []

/-- The step of a plan that puts out groups: the record of a row that the transform accepts. -/
def groupStep (transform : RowTransform) (plan : GroupPlan) (values : Row) :
    Except Fault (List GroupRecord) := do
  match ← transform.run values with
  | some row => .ok [← plan.record row]
  | none => .ok []

end Plan

end TablePipeline
