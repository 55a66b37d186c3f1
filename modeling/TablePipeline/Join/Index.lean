import TablePipeline.Join.Plan
import TablePipeline.Sorting.Stable

/-!
The index of a join: the records of the side that is built, by their keys. A record with a missing
value in its key is left out. In a rolling join so is one with a missing rolling value, and the
records of a key are sorted by their rolling values, equal ones in the order in which they came.
-/
namespace TablePipeline

/-- The records of each key with their rolling values. -/
abbrev JoinIndex := List (Key × Array (Value × Row))

namespace JoinIndex

/-- The entries of a key. -/
def entries (index : JoinIndex) (key : Key) : Array (Value × Row) :=
  ((index.find? fun (there, _) => Key.equal there key).map (·.2)).getD #[]

/-- Add an entry behind those of its key. -/
def insert (key : Key) (entry : Value × Row) : JoinIndex → JoinIndex
  | [] => [(key, #[entry])]
  | (there, entries) :: rest =>
    if Key.equal there key then (there, entries.push entry) :: rest
    else (there, entries) :: insert key entry rest

/-- Whether a record can be found at all. -/
def isFindable (p : JoinPlan) (record : JoinRecord) : Bool :=
  !record.key.hasNull && !(p.kind.isRolling && record.roll.isNull)

def add (p : JoinPlan) (index : JoinIndex) (record : JoinRecord) : Except Fault JoinIndex :=
  if isFindable p record then do
    record.key.check.mapError Fault.eval
    .ok (index.insert record.key (record.roll, record.values))
  else .ok index

def earlier (x y : Value × Row) : Except EvalFault Bool := Datum.less x.1 y.1

/-- Sort the entries of each key, if the join is a rolling one. -/
def arrange (p : JoinPlan) (index : JoinIndex) : Except Fault JoinIndex :=
  if p.kind.isRolling then
    index.mapM fun (key, entries) => do
      .ok (key, (← (Sorting.sort earlier entries.toList).mapError Fault.eval).toArray)
  else .ok index

/-- The index of records. -/
def ofRecords (p : JoinPlan) (records : List JoinRecord) : Except Fault JoinIndex := do
  arrange p (← records.foldlM (add p) [])

/-- The place of the nearest entry on the right side of a value. -/
def nearestPlace (p : JoinPlan) (entries : Array (Value × Row)) (roll : Value) :
    Except EvalFault (Option Nat) := do
  if p.kind == .forward then .ok (some (← Sorting.placeBefore earlier entries (roll, [])))
  else
    let place ← Sorting.placeAfter earlier entries (roll, [])
    .ok (if place == 0 then none else some (place - 1))

/-- The columns of the nearest entry of a key, if it is near enough. -/
def nearest (p : JoinPlan) (index : JoinIndex) (key : Key) (roll : Value) :
    Except EvalFault (Option Row) := do
  key.check
  let entries := index.entries key
  if entries.isEmpty || roll.isNull then .ok none
  else
    match (← nearestPlace p entries roll).bind fun place => entries[place]? with
    | none => .ok none
    | some (built, values) => do
      .ok (if ← p.isNear roll built then some values else none)

/-- The columns of the index that match a probe record. -/
def partners (p : JoinPlan) (index : JoinIndex) (record : JoinRecord) :
    Except EvalFault (List Row) :=
  if record.key.hasNull then .ok []
  else if p.kind.isRolling then do .ok (← nearest p index record.key record.roll).toList
  else do
    record.key.check
    .ok ((index.entries record.key).toList.map (·.2))

/-- The output rows of a probe record. -/
def probe (p : JoinPlan) (index : JoinIndex) (record : JoinRecord) : Except Fault (List Row) := do
  let found ← (partners p index record).mapError Fault.eval
  if found.isEmpty && p.keepsUnmatched then .ok [← p.assemble record.values none]
  else found.mapM fun built => p.assemble record.values (some built)

end JoinIndex

end TablePipeline
