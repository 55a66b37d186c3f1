import TablePipeline.Run.Report
import TablePipeline.Sink
import TablePipeline.Sorting.External
import TablePipeline.Sorting.Order
import TablePipeline.Table.Basic

/-!
Sorting a table into a file. Rows are sorted by the values that the columns have before they are
formatted, and are formatted when they are written. Until then a row that is not put aside is the one
that the transform has left, so a NaN in it is still the same as itself.
-/
namespace TablePipeline.Table

/-- The chunk size of a sort. -/
def chunkOf (arg : Arg) : Except Fault Nat :=
  match arg with
  | .int i => if 0 < i then .ok i.toNat else .error (.schema (.sortChunk arg.literal))
  | _ => .error (.schema (.sortChunk arg.literal))

/-- The rows that the table accepts, with the values of all slots. -/
def acceptedRows (store : Store) (t : Table) : Feed Row :=
  let transform := RowTransform.ofTable t.catalog t.rules false
  (t.source.rows store).flatMapM fun values => do .ok (← transform.kept values).toList

/-- Compare two rows. A NaN that was made from one of them is not the same as any in the other. -/
def lessApart (order : SortOrder) (a b : Row) : Except Fault Bool :=
  order.less (Datum.forgetItems false a) (Datum.forgetItems false b)

/-- The columns of a row, each through its formatter. -/
def formattedCells (c : Catalog) (row : Row) : Except Fault Row :=
  c.live.mapM fun slot => do
    let v ← row.cell slot
    match c.formatter? slot with
    | some f => f.apply [v]
    | none => .ok v

/-- The rows of the table in an order, formatted. -/
def sortedRows (store : Store) (t : Table) (order : SortOrder) (chunk : Nat) (folder : Arg) :
    Feed Row :=
  if Source.maxCount < chunk then .failed (.eval .badCount)
  else
    (Sorting.sortRows (lessApart order) chunk folder (t.acceptedRows store)).flatMapM fun row => do
      .ok [← formattedCells t.catalog row]

/-- A failure of a sort: one that has no code is wrapped. -/
def sortFault (fault : Fault) : Fault := if fault.code?.isSome then fault else .sorting fault

def sortSignature : Signature :=
  ⟨"Table.sort()", ["self", "order", "output"], ["chunk_size", "tempdir"]⟩

/-- Sort the table into a file. -/
def sort (store : Store) (t : Table) (order output : Arg) (settings : Settings) :
    Except Fault Report × Store :=
  let checked : Except Fault (SortOrder × Nat × Sink) := do
    (sortSignature.check settings).mapError Fault.eval
    if t.rules.makesGroups then throw (.schema .sortOfGroups)
    let chunk ← chunkOf (settings.get "chunk_size" (.int Sorting.defaultChunk))
    let order ← SortOrder.ofArg t.catalog order
    .ok (order, chunk, ← Sink.ofArgs store output (.named []))
  match checked with
  | .error fault => (.error fault, store)
  | .ok (order, chunk, sink) =>
    let rows (opened : Store) : Feed Row :=
      t.sortedRows opened order chunk (settings.get "tempdir" .null)
    match sink.write t.catalog.names rows store with
    | (.ok rows, store) => (.ok { output := sink.uri, rowsWritten := rows }, store)
    | (.error fault, store) => (.error (sortFault fault), store)

end TablePipeline.Table
