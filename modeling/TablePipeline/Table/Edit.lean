import TablePipeline.KeyEntry
import TablePipeline.Table.Basic

/-!
Edits: the calls that build up a table. After every edit the table is run on its first rows without
output. If the edit itself or this dry run fails, the catalog and the rules are put back to what
they were before, so an edit either takes place as a whole or not at all.
-/
namespace TablePipeline

inductive Edit where
  | operate (func columns newName : Arg)
  | setType (column type : Arg)
  | setParser (column parser : Arg)
  | setFormatter (column formatter : Arg)
  | filter (columns predicate : Arg)
  | groupBy (keys : Arg)
  | aggregate (func columns newNames : Arg)
  | delete (columns : Arg)
  | select (columns : Arg)
  | reorder (names : Arg)
  | rename (names : Arg)

namespace Edit

/-- What a failing dry run calls the edit. -/
def call : Edit → GuardedCall
  | operate .. => .operate
  | setType column type => .setType type.literal column.literal
  | setParser column _ => .setParser column.literal
  | setFormatter column _ => .setFormatter column.literal
  | filter .. => .filter
  | groupBy _ => .groupBy
  | aggregate .. => .aggregate
  | delete _ => .delete
  | select _ => .select
  | reorder _ => .reorder
  | rename _ => .rename

/-- A step of an edit: it may fail, and leaves a table behind in any case. -/
abbrev Step (α : Type) := ExceptT Fault (StateM Table) α

/-- A question to the table. -/
def ask {α : Type} (question : Table → Except Fault α) : Step α := do
  let t ← get
  match question t with
  | .ok a => pure a
  | .error fault => throw fault

/-- A change of the table's catalog. -/
def onCatalog {α : Type} (change : Change α) : Step α := fun t =>
  let (outcome, catalog) := change.apply t.catalog
  (outcome, { t with catalog })

def onRules (f : RowRules → RowRules) : Step Unit := modify fun t => { t with rules := f t.rules }

def addFilter (columns predicate : Arg) : Step Unit := do
  match predicate with
  | .func f =>
    let slots ← ask (·.catalog.resolve columns)
    let position := (← get).catalog.operations.length
    onRules (·.addFilter { columns := slots, predicate := f, position })
  | _ => throw (.schema .filterNotFunction)

/-- Group by keys in place of those before. -/
def setKeys (keys : Arg) : Step Unit := do
  let entries ← ask fun _ => KeyEntry.listOf "group-by" keys
  let slots ← ask (·.catalog.resolveNames (entries.map (·.name)))
  let groupKeys := (entries.zip slots).map fun (entry, slot) =>
    { slot, collation? := entry.collation? : GroupKey }
  onRules fun rules => { rules with keys := groupKeys }

/-- The names of new aggregate columns: the given ones, or the aggregate's with the column's. -/
def aggregateNames (func : Arg) (columns : List Arg) (newNames : Arg) : List Arg :=
  match newNames with
  | .null => columns.map fun d => .text s!"{Aggregate.label func}({d.display})"
  | given => given.asList

/-- Whether names are texts that are not empty, not taken and all different. -/
def areFresh (names : List Arg) (taken : List Value) : Bool :=
  names.all (fun d =>
    match d with
    | .text name => name != "" && !Names.contain taken (.text name)
    | _ => false) &&
  (Names.repeats names).isEmpty

def addAggregates (func columns newNames : Arg) : Step Unit := do
  let f ← ask fun _ => Aggregate.resolve func
  let slots ← ask (·.catalog.resolve columns)
  let names := aggregateNames func columns.asList newNames
  if names.length != slots.length then
    throw (.schema (.aggregateCount names.length slots.length))
  let t ← get
  if !areFresh names (t.catalog.names ++ t.rules.aggregateNames) then
    throw (.schema (.aggregateNames (Datum.list names).literal))
  onRules fun rules => (slots.zip (names.filterMap Datum.text?)).foldl
    (fun rules (source, name) => rules.addAggregate { func := f, source, name := .text name }) rules

/-- Delete all columns but the named ones. -/
def keepOnly (columns : Arg) : Step Unit := do
  let keep ← ask (·.catalog.resolve columns)
  let c := (← get).catalog
  let drop := (c.live.filter fun slot => !keep.contains slot).map c.nameOf
  if !drop.isEmpty then onCatalog (Catalog.delete (Datum.list drop))

/-- What the edit does. -/
def steps : Edit → Step Unit
  | operate func columns newName => do let _ ← onCatalog (Catalog.operate func columns newName)
  | setType column type => onCatalog (Catalog.setType type column)
  | setParser column parser => onCatalog (Catalog.setParser parser column)
  | setFormatter column formatter => onCatalog (Catalog.setFormatter formatter column)
  | filter columns predicate => addFilter columns predicate
  | groupBy keys => setKeys keys
  | aggregate func columns newNames => addAggregates func columns newNames
  | delete columns => onCatalog (Catalog.delete columns)
  | select columns => keepOnly columns
  | reorder names => onCatalog (Catalog.reorder names)
  | rename names => onCatalog (Catalog.rename names)

end Edit

/-- A dry run of something that has a plan: its failure is reported as one of the call. -/
def dryRun (store : Store) (call : GuardedCall) (plan : Except Fault Plan) : Except Fault Unit :=
  match plan.bind fun p => p.preview store {} with
  | .ok _ => .ok ()
  | .error fault => .error (.dryRun call fault)

namespace Table

/-- Carry out an edit with its dry run. -/
def attempt (store : Store) (e : Edit) : Edit.Step Unit := do
  e.steps
  Edit.ask fun t => dryRun store e.call (t.plan {} false)

/-- Carry out an edit, or leave catalog and rules as they were. -/
def edit (store : Store) (t : Table) (e : Edit) : Except Fault Unit × Table :=
  match attempt store e t with
  | (.ok (), changed) => (.ok (), changed)
  | (.error fault, changed) =>
    (.error fault, { changed with catalog := t.catalog, rules := t.rules })

end Table

end TablePipeline
