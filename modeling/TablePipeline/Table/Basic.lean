import TablePipeline.Func.Aggregate
import TablePipeline.Column.Change
import TablePipeline.Sample

/-!
Tables: a delimited file together with what is to be done with its rows. Opening a table reads only
the names of its columns. A table can be frozen into a plan at any time.
-/
namespace TablePipeline

structure Table where
  source : Source
  /-- The names of the columns of the file, as they were read when the table was opened. -/
  header : List Value
  batchSize : Nat
  catalog : Catalog
  rules : RowRules := {}

namespace Table

/-- Open the file at a path. -/
def ofArgs (store : Store) (path haveHeader batchSize : Arg) (settings : FileSettings) :
    Except Fault Table := do
  let source ← Source.ofArgs store path haveHeader settings
  let batchSize ← batchSizeOf batchSize
  let header := (← source.columns store).zipIdx.map fun (name, place) => name.claim place
  .ok { source, header, batchSize, catalog := ← Catalog.ofNames header }

/-- The names of the output columns: those of the groups, if the table makes groups. -/
def names (t : Table) : Except Fault (List Value) :=
  if t.rules.makesGroups then GroupSchema.names t.catalog t.rules else .ok t.catalog.names

/-- The slots of chosen columns, or of all. -/
def chosenSlots (c : Catalog) (select : Option (List Value)) : Except Fault (List Nat) :=
  match select with
  | none => .ok c.live
  | some select => do
    .ok ((← Names.places .table c.names select).filterMap fun place => c.live[place]?)

/-- The plan that puts out groups. -/
def groupWork (t : Table) (select : Option (List Value)) (formatted : Bool) :
    Except Fault (List Value × PlanWork) := do
  let group ← GroupSchema.plan t.catalog t.rules select
  let group := if formatted then group else { group with formatters := [] }
  .ok (group.names, .groups t.source (RowTransform.ofTable t.catalog t.rules false) group)

/-- The plan that puts out rows. -/
def rowWork (t : Table) (select : Option (List Value)) (formatted : Bool) :
    Except Fault (List Value × PlanWork) := do
  let slots ← chosenSlots t.catalog select
  if slots.isEmpty then throw (.schema .selectEmpty)
  .ok (slots.map t.catalog.nameOf,
    .rows t.source (RowTransform.ofTable t.catalog t.rules formatted) slots)

/-- The plan of the table as it is now. -/
def plan (t : Table) (options : RunOptions) (formatted : Bool) : Except Fault Plan := do
  let select ← options.chosenNames (← t.names)
  let (names, work) ←
    if t.rules.makesGroups then t.groupWork select formatted else t.rowWork select formatted
  .ok { names, options, batchSize := t.batchSize, work }

/-- The first rows of the file, the header included. -/
def head (store : Store) (t : Table) (n : Arg) : Except Fault (List Row) :=
  match n with
  | .int i =>
    if 0 ≤ i then t.source.head store n else .error (.schema (.headSize n.literal))
  | _ => .error (.schema (.headSize n.literal))

/-- The table in one line. -/
def text (t : Table) : Except Fault String := do
  .ok s!"Table({t.source.uri}: {(Datum.list (← t.names)).literal})"

end Table

end TablePipeline
