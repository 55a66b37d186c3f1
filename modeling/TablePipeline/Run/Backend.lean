import TablePipeline.Join.Index
import TablePipeline.Plan
import TablePipeline.Run.Batches
import TablePipeline.Run.Buckets
import TablePipeline.Run.Cursor
import TablePipeline.Run.Outcome
import TablePipeline.Sink

/-!
Running a plan. The rows of a source are read in batches and worked on; groups and joins set their
records apart in buckets by the hashes of their keys and then treat one bucket after the other. What
fails on the way is reported, or ends the run if the backend is told to.
-/
namespace TablePipeline

structure Backend extends Scheduling where
  raiseOnError : Bool := false
  partitioning : Partitioning := {}

namespace Backend

/-- The backend that the options of a run ask for. -/
def ofOptions (options : RunOptions) : Backend where
  workers := options.workers
  preserveOrder := options.preserveOrder
  raiseOnError := options.raiseOnError
  partitioning := .ofArgs (.int Partitioning.usualCount) options.folder

def signature : Signature :=
  ⟨"LocalBackend.__init__()", ["self"],
    ["num_workers", "raise_on_error", "preserve_order", "tempdir", "num_partitions"]⟩

/-- As many workers as an argument says, with what is said if that is none. A broken number counts
as more than one worker, and as many batches are in flight as there are below its double. -/
def schedulingOf (arg : Arg) : Scheduling :=
  match arg with
  | .int i => { workers := i.toNat }
  | .bool b => { workers := b.toNat }
  | .float (.infinite false) => { workers := 2, window := Source.maxCount }
  | .float (.nan _) => { workers := 2, window := 0 }
  | .float x =>
    match x.toInt? with
    | some i => { workers := i.toNat }
    | none =>
      match x.toDyadic? with
      | some (num, shift) =>
        if num < 0 then { workers := 0 }
        else
          let window := (2 * num + (Int.pow 2 shift - 1)).fdiv (Int.pow 2 shift)
          { workers := 2, window := window.toNat }
      | none => { workers := 0 }
  | .text _ | .list _ | .tuple _ | .duration _ =>
    { workers := 0, refusal := Datum.noOrder .le arg (.int 0) }
  | _ => { workers := 0, refusal := .noOperation "*" arg.qualifiedKind "int" }

/-- The backend that settings describe. -/
def ofSettings (settings : Settings) : Except EvalFault Backend := do
  signature.check settings
  let partitions := settings.get "num_partitions" (.int Partitioning.usualCount)
  pure {
    schedulingOf (settings.get "num_workers" (.int 1)) with
    preserveOrder := (settings.get "preserve_order" (.bool true)).truth
    raiseOnError := (settings.get "raise_on_error" (.bool false)).truth
    partitioning := .ofArgs partitions (settings.get "tempdir" .null) }

/-- A failure as an entry of the report, or as the end of the run. -/
def failure (b : Backend) (stage : Stage) (place : Place) (fault : Fault) :
    Except Fault RowFailure :=
  if b.raiseOnError then .error (.execution stage place fault) else .ok { stage, place, fault }

/-- Work on the rows of a batch one by one. -/
def workOn {α : Type} (b : Backend) (stage : Stage) (step : Row → Except Fault (List α)) :
    List NumberedRow → Except Fault (Outcome α)
  | [] => .ok .empty
  | row :: rest =>
    match step row.values with
    | .ok items => do
      let more ← workOn b stage step rest
      .ok { more with items := items ++ more.items }
    | .error fault => do
      let failure ← b.failure stage (.row row.id) fault
      .ok ((← workOn b stage step rest).report failure)

/-- Work on the rows of a feed in batches. -/
def workThrough {α : Type} (b : Backend) (stage : Stage) (batchSize : Nat)
    (step : Row → Except Fault (List α)) (rows : Feed Row) : Outcome α :=
  .ofResults (b.run (b.workOn stage step) (rows.numbered.batches batchSize))

/-- Work on groups or rows one by one, outside of batches. -/
def eachOf {α β : Type} (b : Backend) (stage : Stage) (place : Place)
    (step : α → Except Fault (List β)) : List α → Outcome β
  | [] => .empty
  | a :: rest =>
    match step a with
    | .ok items => .append { items } (eachOf b stage place step rest)
    | .error fault =>
      match b.failure stage place fault with
      | .error stop => .failed stop
      | .ok failure => (eachOf b stage place step rest).report failure

/-- The rows of groups. -/
def finishGroups (b : Backend) (p : GroupPlan) (groups : Groups) : Outcome Row :=
  b.eachOf .aggregate .group (fun (key, columns) => do .ok [← p.finish key columns])
    (groups.finished p)

/-- The groups of one set of records. -/
def groupRecords (b : Backend) (p : GroupPlan) (records : List GroupRecord) : Outcome Row :=
  match Groups.collect p records with
  | .error fault => .failed fault
  | .ok groups => b.finishGroups p groups

/-- The numbers of the buckets in order. -/
def bucketNumbers (b : Backend) : List Nat := List.range b.partitioning.count

/-- All records of a stage in their buckets, once the stage has ended. What is read back from a
bucket has been put aside. -/
def spill {α : Type} (b : Backend) (key : α → Key) (putAside : α → α) (records : Outcome α) :
    Except Fault (Buckets α) := do
  let buckets ← (Buckets.ofRecords b.partitioning key putAside records.items).mapError Fault.eval
  match records.fault with
  | some fault => throw fault
  | none => pure buckets

/-- The groups of records: all in one set, if there are no keys, else bucket by bucket. -/
def groupAll (b : Backend) (p : GroupPlan) (records : Outcome GroupRecord) : Outcome Row :=
  let groups : Outcome Row :=
    if p.isWhole then
      match records.fault with
      | some fault => .failed fault
      | none => b.groupRecords p records.items
    else
      match b.spill (·.key) GroupRecord.putAside records with
      | .error fault => .failed fault
      | .ok buckets =>
        .concat (b.bucketNumbers.map fun number => b.groupRecords p (buckets.bucket number))
  { groups with failures := records.failures ++ groups.failures }

/-- The join of one bucket of each side. A bucket without an index is lost as a whole. -/
def joinBucket (b : Backend) (p : JoinPlan) (number : Nat) (built probed : List JoinRecord) :
    Outcome Row :=
  if probed.isEmpty then .empty
  else
    match JoinIndex.ofRecords p built with
    | .error fault =>
      match b.failure .join (.bucket number) fault with
      | .error stop => .failed stop
      | .ok failure => Outcome.empty.report failure
    | .ok index => b.eachOf .join (.rowOfBucket number) (index.probe p) probed

/-- The join of the records of both sides. No record of the probe side is made before all records of
the other side are in their buckets. -/
def joinAll (b : Backend) (p : JoinPlan) (built probed : Outcome JoinRecord) : Outcome Row :=
  match b.spill (·.key) JoinRecord.putAside built with
  | .error fault => .failed fault
  | .ok builtBuckets =>
    match b.spill (·.key) JoinRecord.putAside probed with
    | .error fault => .failed fault
    | .ok probedBuckets =>
      let joined : Outcome Row := .concat (b.bucketNumbers.map fun number =>
        b.joinBucket p number (builtBuckets.bucket number) (probedBuckets.bucket number))
      { joined with failures := built.failures ++ probed.failures ++ joined.failures }

/-- The records of a side of a join. -/
def recordsOfSide (b : Backend) (store : Store) (stage : Stage) (side : JoinSide) :
    Outcome JoinRecord :=
  b.workThrough stage side.batchSize side.recordOf (side.source.rows store)

/-- The output rows of a plan. -/
def output (b : Backend) (store : Store) (p : Plan) : Outcome Row :=
  match p.work with
  | .rows source transform slots =>
    b.workThrough .rows p.batchSize (Plan.rowStep transform slots) (source.rows store)
  | .groups source transform group =>
    b.groupAll group
      (b.workThrough .group p.batchSize (Plan.groupStep transform group) (source.rows store))
  | .join join =>
    b.joinAll join (b.recordsOfSide store .joinBuild join.build)
      (b.recordsOfSide store .joinProbe join.probe)

/-- Run a plan into a sink. The sink is opened before the first row is read. -/
def execute (b : Backend) (p : Plan) (sink : Sink) (store : Store) : Except Fault Report × Store :=
  match sink.opened store with
  | .error fault => (.error fault, store)
  | .ok opened =>
    let outcome := b.output opened.1 p
    match sink.filled p.names outcome.toFeed opened with
    | (.error fault, store) => (.error fault, store)
    | (.ok rows, store) =>
      (.ok { output := sink.uri, rowsWritten := rows, failures := outcome.failures }, store)

/-- The work of a plan that is to be run as the work of another kind, or what it lacks for that. -/
def workAs (work : PlanWork) (kind : String) : Option (Except EvalFault PlanWork) :=
  if kind == work.kind then some (.ok work)
  else
    match kind, work with
    | "rows", .groups source transform _ => some (.ok (.rows source transform []))
    | "rows", _ => some (.error (.noPart "NoneType" "rows"))
    | "aggregate", _ => some (.error (.noPart "NoneType" "whole_table"))
    | "join", _ => some (.error (.noPart "NoneType" "build"))
    | _, _ => none

/-- Run a plan under the name of a kind. -/
def executeAs (b : Backend) (kind : Arg) (p : Plan) (sink : Sink) (store : Store) :
    Except Fault Report × Store :=
  match kind.requireKey, kind.text?.bind (workAs p.work) with
  | .error stop, _ => (.error (.eval stop), store)
  | .ok (), none => (.error (.schema (.planKind kind.literal)), store)
  | .ok (), some (.ok work) => b.execute { p with work } sink store
  | .ok (), some (.error fault) =>
    match sink.opened store with
    | .error fault => (.error fault, store)
    | .ok opened =>
      let (_, store) := sink.filled p.names (.failed (.eval fault)) opened
      (.error (.eval fault), store)

end Backend

end TablePipeline
