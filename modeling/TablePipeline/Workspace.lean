import TablePipeline.Grid
import TablePipeline.Inference
import TablePipeline.Join.Spec
import TablePipeline.Run.Backend
import TablePipeline.Table.Edit
import TablePipeline.Table.Sort
import TablePipeline.Yaml.Block

/-!
Workspaces: the storage together with the tables and joins that have been made of its files, under
names. A join remembers which two tables it is of and not what they were: edits of a table show in
its joins, also when its name has been given to another table since.
-/
namespace TablePipeline

/-- What a name stands for. Tables are given by the numbers under which they were opened. -/
inductive Entry where
  | table (number : Nat)
  | joined (spec : JoinSpec) (a b : Nat)

structure Workspace where
  store : Store := {}
  /-- All tables in the order in which they were opened. -/
  tables : List Table := []
  entries : List (String × Entry) := []

/-- Something that can be run: a table, or a join of two tables as they are now. -/
inductive Subject where
  | table (t : Table)
  | joined (spec : JoinSpec) (a b : Table)

namespace Subject

def names : Subject → Except Fault (List Value)
  | table t => t.names
  | joined spec a b => spec.names a b

/-- The subject in one line. -/
def text : Subject → Except Fault String
  | table t => t.text
  | joined spec a b => .ok (spec.text a b)

/-- The table that a call for tables alone is meant for. -/
def asTable (call : String) : Subject → Except Fault Table
  | table t => .ok t
  | joined .. => .error (.eval (.noPart "JoinedTable" call))

def plan (store : Store) (s : Subject) (options : RunOptions) (formatted : Bool) :
    Except Fault Plan :=
  match s with
  | table t => t.plan options formatted
  | joined spec a b => spec.plan store a b options formatted

/-- The plan with the options that settings describe. -/
def planWith (store : Store) (s : Subject) (settings : Settings) (formatted : Bool) :
    Except Fault Plan := do
  s.plan store (← RunOptions.ofSettings settings) formatted

/-- The plan as a document. -/
def document (store : Store) (s : Subject) (settings : Settings) : Except Fault String := do
  (Yaml.documentOf (← s.planWith store settings true).describe).mapError Fault.eval

/-- The name of a call of the subject. -/
def callName (s : Subject) (call : String) : String :=
  match s with
  | table _ => s!"Table.{call}()"
  | joined .. => s!"JoinedTable.{call}()"

/-- The document that the subject shows of its plan. -/
def explain (store : Store) (s : Subject) (settings : Settings) : Except Fault String := do
  (settings.refuse ["self"] (.given (s.callName "explain"))).mapError Fault.eval
  s.document store settings

/-- The settings of a preview: how many rows are read and shown, and whether they are formatted. -/
def previewSettings : List String := ["sample_size", "return_size", "formatted"]

/-- The first records of the output, formatted or not unless the settings say so. -/
def firstRecords (store : Store) (s : Subject) (settings : Settings) (formatted : Bool) :
    Except Fault (List Record) := do
  let size ← PreviewSize.ofArgs (settings.get "sample_size" (.int 10))
    (settings.get "return_size" (.int 10))
  (← s.plan store {} (settings.get "formatted" (.bool formatted)).truth).preview store size

def preview (store : Store) (s : Subject) (settings : Settings) : Except Fault (List Record) := do
  let signature : Signature := ⟨s.callName "preview", ["self"], previewSettings⟩
  (signature.check settings).mapError Fault.eval
  s.firstRecords store settings false

/-- The preview of a table as a grid, formatted unless the settings say otherwise. -/
def drawn (store : Store) (s : Subject) (settings : Settings) : Except Fault String := do
  let t ← s.asTable "print_table"
  ((Signature.mk "Table.print_table()" ["self"] previewSettings).check settings).mapError Fault.eval
  let records ← s.firstRecords store settings true
  Grid.ofRecords (← t.names) records (settings.get "return_size" (.int 10))

/-- The types that the file of a table suggests. -/
def suggestedTypes (store : Store) (s : Subject) (settings : Settings) :
    Except Fault (List (Value × String)) := do
  let t ← s.asTable "infer_types"
  ((Signature.mk "Table.infer_types()" ["self"] ["sample_rows"]).check settings).mapError Fault.eval
  t.suggestedTypes store (settings.get "sample_rows" (.int Inference.usualSize))

def computeSignature : Signature :=
  ⟨"compute()", ["obj", "output"], RunOptions.settingNames ++ ["backend"]⟩

/-- The backend of a run: a given one, or the one that the options ask for. Nothing else can take
its place. -/
def backendFor (settings : Settings) (options : RunOptions) (backend? : Option Backend) :
    Except EvalFault Backend :=
  match backend?, settings.get "backend" .null with
  | some backend, _ => .ok backend
  | none, other =>
    if other.truth then .error (.noPart other.qualifiedKind "execute") else .ok (.ofOptions options)

/-- Run the subject into a file, with the backend that the settings ask for or a given one. -/
def compute (store : Store) (s : Subject) (output : Arg) (settings : Settings)
    (backend? : Option Backend) : Except Fault Report × Store :=
  let prepared : Except Fault (Backend × Plan × Sink) := do
    (settings.refuse ["self", "output"] (.given (s.callName "compute"))).mapError Fault.eval
    (computeSignature.check settings).mapError Fault.eval
    let options ← RunOptions.ofSettings (settings.without ["backend"])
    let p ← s.plan store options true
    let sink ← Sink.ofArgs store output (.named [])
    .ok (← (backendFor settings options backend?).mapError Fault.eval, p, sink)
  match prepared with
  | .error fault => (.error fault, store)
  | .ok (backend, p, sink) => backend.execute p sink store

/-- Run the subject's plan under the name of a kind into a file, with the usual backend. -/
def computeAs (store : Store) (s : Subject) (kind output : Arg) : Except Fault Report × Store :=
  let prepared : Except Fault (Plan × Sink) := do
    .ok (← s.plan store {} true, ← Sink.ofArgs store output (.named []))
  match prepared with
  | .error fault => (.error fault, store)
  | .ok (p, sink) => Backend.executeAs {} kind p sink store

/-- Only tables and joins can be run. -/
def notComputable (arg : Arg) : Fault := .schema (.computeInput arg.kind)

end Subject

namespace Workspace

def entry? (w : Workspace) (name : String) : Option Entry := w.entries.lookup name

/-- Give a name to something, in place of what had the name before. -/
def bind (w : Workspace) (name : String) (entry : Entry) : Workspace :=
  { w with entries := (name, entry) :: w.entries.filter fun (there, _) => there != name }

/-- What a name stands for, with the tables as they are now. -/
def subject? (w : Workspace) (name : String) : Option Subject :=
  match w.entry? name with
  | some (.table number) => w.tables[number]?.map .table
  | some (.joined spec a b) => do some (.joined spec (← w.tables[a]?) (← w.tables[b]?))
  | none => none

/-- The number of the table of a name. -/
def number? (w : Workspace) (name : String) : Option Nat :=
  match w.entry? name with
  | some (.table number) => some number
  | _ => none

def openSignature : Signature := ⟨"table()", ["path"], ["have_header", "batch_size", "options"]⟩

/-- The table that settings ask for. -/
def tableOf (store : Store) (path : Arg) (settings : Settings) : Except Fault Table := do
  (openSignature.check settings).mapError Fault.eval
  let options ← (FileSettings.copied (settings.get "options" .null)).mapError Fault.eval
  Table.ofArgs store path (settings.get "have_header" (.bool true))
    (settings.get "batch_size" (.int defaultBatchSize)) options

/-- Open a table under a name. -/
def openTable (w : Workspace) (name : String) (path : Arg) (settings : Settings) :
    Except Fault Unit × Workspace :=
  match tableOf w.store path settings with
  | .error fault => (.error fault, w)
  | .ok t =>
    (.ok (), { w with tables := w.tables ++ [t] }.bind name (.table w.tables.length))

/-- Edit the table of a number. -/
def editTable (w : Workspace) (number : Nat) (e : Edit) : Except Fault Unit × Workspace :=
  match w.tables[number]? with
  | none => (.error (.eval .indexOutOfRange), w)
  | some t =>
    let (outcome, t) := t.edit w.store e
    (outcome, { w with tables := w.tables.set number t })

/-- Check a join of two tables, with a dry run if it is guarded. -/
def checkJoin (w : Workspace) (a? b? : Option Nat) (args : JoinArgs) (guarded : Bool) :
    Except Fault Entry :=
  match a?, b?, a?.bind (w.tables[·]?), b?.bind (w.tables[·]?) with
  | some i, some j, some a, some b => do
    let spec ← JoinSpec.ofArgs w.store a b args
    if guarded then
      dryRun w.store (.join spec.kind.name) (spec.plan w.store a b {} false)
    .ok (.joined spec i j)
  | _, _, _, _ => .error (.schema .joinInput)

/-- Check a join of a kind with a dry run; a right join is declared with the sides exchanged.
Without a kind the join is the one that the arguments name, and there is no dry run. -/
def joinEntry (w : Workspace) (kind? : Option JoinKind) (a? b? : Option Nat) (args : JoinArgs) :
    Except Fault Entry :=
  match kind? with
  | none => w.checkJoin a? b? args false
  | some kind =>
    let args := { args with kind := .text kind.name }
    if kind == .right then w.checkJoin b? a? args.swapped true else w.checkJoin a? b? args true

/-- Join two tables under a name. -/
def join (w : Workspace) (kind? : Option JoinKind) (name : String) (a? b? : Option Nat)
    (settings : Settings) (aKeys bKeys aRoll bRoll : Arg) : Except Fault Unit × Workspace :=
  let entry : Except Fault Entry := do
    ((JoinKind.signature kind?).check settings).mapError Fault.eval
    w.joinEntry kind? a? b? (.ofSettings settings aKeys bKeys aRoll bRoll)
  match entry with
  | .error fault => (.error fault, w)
  | .ok entry => (.ok (), w.bind name entry)

end Workspace

end TablePipeline
