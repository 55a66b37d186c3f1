import TablePipeline.Datum.Key
import TablePipeline.Group.Plan

/-!
Collecting groups. For every group, in the order in which its key was first seen, the values that
each aggregate needs are collected in the order of the rows; a finished group is one row of the
output.
-/
namespace TablePipeline

/-- A row cut down to what a plan carries, with its key. -/
structure GroupRecord where
  key : Key
  carried : Row

/-- The record as it is read back after it has been put aside. -/
def GroupRecord.putAside (record : GroupRecord) : GroupRecord where
  key := Datum.forgetItems true record.key
  carried := Datum.forgetItems true record.carried

namespace GroupPlan

/-- The value of a key: the carried value, or what the collation makes of it. -/
def keyPart (carried : Row) (key : Nat × Option Func) : Except Fault Value := do
  let v ← carried.cell key.1
  match key.2 with
  | some f => f.apply [v]
  | none => .ok v

/-- The record of a row of all slots. -/
def record (p : GroupPlan) (row : Row) : Except Fault GroupRecord := do
  let carried ← row.cells p.index
  .ok { key := ← p.keys.mapM (keyPart carried), carried }

/-- The value of a key in the output. Only a key without collation is formatted. -/
def keyValue (p : GroupPlan) (key : Nat × Option Func) (v : Value) : Except Fault Value :=
  match key.2, p.formatters.lookup key.1 with
  | none, some f => f.apply [v]
  | _, _ => .ok v

/-- The row of a finished group with the values of its aggregates' columns. -/
def finish (p : GroupPlan) (key : Key) (columns : List (List Value)) : Except Fault Row := do
  let keys ← (p.keys.zip key).mapM fun (place, v) => p.keyValue place v
  let results ← (p.aggregates.zip columns).mapM fun ((f, _), vs) => f.apply [.list vs]
  Row.cells (keys ++ results) p.writeIndex

end GroupPlan

/-- The groups so far, with the values of each aggregate. -/
abbrev Groups := List (Key × List (List Value))

namespace Groups

/-- Add a value to the end of each column. -/
def extend (columns : List (List Value)) (vs : List Value) : List (List Value) :=
  (columns.zip vs).map fun (column, v) => column ++ [v]

/-- Add the values of one row to the group of its key, or to a new group. -/
def insert (key : Key) (vs : List Value) : Groups → Groups
  | [] => [(key, vs.map fun v => [v])]
  | (there, columns) :: rest =>
    if Key.equal there key then (there, extend columns vs) :: rest
    else (there, columns) :: insert key vs rest

/-- Add a record; its key must be one that can be looked up. -/
def add (p : GroupPlan) (groups : Groups) (record : GroupRecord) : Except Fault Groups := do
  record.key.check.mapError Fault.eval
  let vs ← record.carried.cells (p.aggregates.map (·.2))
  .ok (groups.insert record.key vs)

/-- All groups of records. -/
def collect (p : GroupPlan) (records : List GroupRecord) : Except Fault Groups :=
  records.foldlM (add p) []

/-- The groups to finish: where all rows make one group there is one even without rows. -/
def finished (p : GroupPlan) (groups : Groups) : Groups :=
  if p.isWhole && groups.isEmpty then [([], p.aggregates.map fun _ => [])] else groups

end Groups

end TablePipeline
