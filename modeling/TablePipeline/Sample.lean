import TablePipeline.Join.Index
import TablePipeline.Plan

/-!
Samples: a plan evaluated in memory on the first rows of its sources. The rows of a sample are made
one by one, so a failure that comes after the rows that are asked for is never met.
-/
namespace TablePipeline

namespace JoinPlan

/-- The join of rows of the two sides: all records of one side are put into the index before the
first row of the other side is looked at. -/
def sample (p : JoinPlan) (builtRows : List Row) (probedRows : Except Fault (List Row)) :
    Feed Row :=
  let index := do
    JoinIndex.arrange p (← builtRows.foldlM (fun index values => do
      (← p.build.recordOf values).foldlM (JoinIndex.add p) index) [])
  match index, probedRows with
  | .error fault, _ | _, .error fault => .failed fault
  | .ok index, .ok rows =>
    Feed.flatMapM (fun values => do
      let records ← p.probe.recordOf values
      .ok (← records.mapM (index.probe p)).flatten) ⟨rows, none⟩

end JoinPlan

namespace GroupPlan

/-- The groups of rows. -/
def sample (p : GroupPlan) (transform : RowTransform) (rows : List Row) : Feed Row :=
  let groups := rows.foldlM (fun groups values => do
    (← Plan.groupStep transform p values).foldlM (Groups.add p) groups) []
  match groups with
  | .error fault => .failed fault
  | .ok groups =>
    Feed.flatMapM (fun (key, columns) => do .ok [← p.finish key columns])
      ⟨Groups.finished p groups, none⟩

end GroupPlan

namespace Plan

/-- The output of a plan on the first `size` rows of each source. -/
def sample (p : Plan) (store : Store) (size : Nat) : Feed Row :=
  match p.work with
  | .rows source transform slots =>
    match source.sample store size with
    | .error fault => .failed fault
    | .ok rows => Feed.flatMapM (rowStep transform slots) ⟨rows, none⟩
  | .groups source transform group =>
    match source.sample store size with
    | .error fault => .failed fault
    | .ok rows => group.sample transform rows
  | .join join =>
    match join.build.source.sample store size with
    | .error fault => .failed fault
    | .ok rows => join.sample rows (join.probe.source.sample store size)

end Plan

/-- A row under the names of its columns. Of equal names the last value is kept, in the first
place. -/
abbrev Record := List (Value × Value)

namespace Record

/-- The value under a name. -/
def get? (record : Record) (name : Value) : Option Value :=
  (record.find? fun (there, _) => there.isMatch name).map (·.2)

def put (record : Record) (name v : Value) : Record :=
  if (record.get? name).isSome then
    record.map fun (there, old) => (there, if there.isMatch name then v else old)
  else record ++ [(name, v)]

def ofRow (names : List Value) (row : Row) : Record :=
  (names.zip row).foldl (fun record (name, v) => record.put name v) []

end Record

/-- The sizes of a preview: how many rows are read, and how many are shown. -/
structure PreviewSize where
  sample : Nat := 10
  shown : Nat := 10

namespace PreviewSize

def sizeOf (name : String) (arg : Arg) : Except Fault Nat :=
  match arg with
  | .int i => if 0 ≤ i then .ok i.toNat else .error (.schema (.previewSize name arg.literal))
  | _ => .error (.schema (.previewSize name arg.literal))

def ofArgs (sample shown : Arg) : Except Fault PreviewSize := do
  let sample ← sizeOf "sample_size" sample
  let shown ← sizeOf "return_size" shown
  .ok { sample, shown }

end PreviewSize

/-- The first records of a sample. -/
def Plan.preview (p : Plan) (store : Store) (size : PreviewSize) : Except Fault (List Record) := do
  if Source.maxCount < size.shown then throw (.eval .badCount)
  let rows ← ((p.sample store size.sample).take size.shown).toExcept
  pure (rows.map (Record.ofRow p.names))

end TablePipeline
