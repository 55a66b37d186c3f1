import TablePipeline.Fault.Schema

/-!
All failures. A definition may be wrong, a file may be missing, a function may fail on data; a dry
run, a run and a sort wrap the failure that stopped them. Coded failures have a code, a message and
a hint; the others have a kind and a message.
-/
namespace TablePipeline

/-- A stage of a run. -/
inductive Stage where
  | rows
  | group
  | aggregate
  | joinBuild
  | joinProbe
  | join
  deriving DecidableEq, Repr

def Stage.name : Stage → String
  | rows => "rows"
  | group => "group"
  | aggregate => "aggregate"
  | joinBuild => "join-build"
  | joinProbe => "join-probe"
  | join => "join"

/-- What a stage was working on. -/
inductive Place where
  | row (id : Nat)
  | group
  | bucket (number : Nat)
  | rowOfBucket (number : Nat)
  deriving DecidableEq, Repr

def Place.text : Place → String
  | row id => s!"row {id}"
  | group => "a group"
  | bucket number => s!"partition {number}"
  | rowOfBucket number => s!"a row of partition {number}"

/-- The number of the row, where the place is a row of a file. -/
def Place.rowId? : Place → Option Nat
  | row id => some id
  | _ => none

/-- A builder call, or a join, that a dry run guards. -/
inductive GuardedCall where
  | operate
  | setType (type column : String)
  | setParser (column : String)
  | setFormatter (column : String)
  | filter
  | groupBy
  | aggregate
  | delete
  | select
  | reorder
  | rename
  | join (kind : String)
  deriving DecidableEq, Repr

/-- What is said of a call that its dry run rejects. -/
def GuardedCall.complaint : GuardedCall → String
  | operate => "this function cannot be appended into the operations"
  | setType type column => s!"cannot set type {type} on column {column}"
  | setParser column => s!"cannot set parser on column {column}"
  | setFormatter column => s!"cannot set formatter on column {column}"
  | filter => "this filter cannot be appended into the operations"
  | groupBy => "invalid group-by keys"
  | aggregate => "this aggregation cannot be appended"
  | delete => "cannot delete the column(s)"
  | select => "cannot select the column(s)"
  | reorder => "cannot reorder the columns"
  | rename => "cannot rename the columns"
  | join kind => s!"invalid arguments passed to {kind} join"

/-- Whether a coded failure blames the definition or the run. -/
inductive Blame where
  | definition
  | run
  deriving DecidableEq, Repr

def Blame.name : Blame → String
  | definition => "SchemaError"
  | run => "OperationError"

inductive Fault where
  | eval (fault : EvalFault)
  | schema (fault : SchemaFault)
  /-- A coded failure that a function of the caller raised. -/
  | user (blame : Blame) (message : String) (hint : Option String)
  | sourceMissing (uri : String)
  | sourceGone (uri : String)
  | sourceUnreadable (uri : String) (cause : EvalFault)
  | sinkFolderMissing (folder : String)
  | sinkRefused (uri : String) (cause : Fault)
  | sinkFailed (uri : String) (cause : Fault)
  | inferenceFailed (uri : String) (cause : EvalFault)
  | dryRun (call : GuardedCall) (cause : Fault)
  | execution (stage : Stage) (place : Place) (cause : Fault)
  | sorting (cause : Fault)

/-- The text of a coded failure: its code, its message and its hint, if it has a hint. -/
def codedText (code message : String) (hint : Option String) : String :=
  let base := s!"[{code}] {message}"
  match hint with
  | some hint => if hint == "" then base else s!"{base}\nHint: {hint}"
  | none => base

namespace Fault

def code? : Fault → Option String
  | eval _ => none
  | schema fault => some fault.code
  | user .. => some "E_USER"
  | sourceMissing _ | sourceGone _ => some "E_SOURCE_NOT_FOUND"
  | sourceUnreadable .. => some "E_SOURCE_READ"
  | sinkFolderMissing _ => some "E_SINK_DIR_NOT_FOUND"
  | sinkRefused .. => some "E_SINK_NOT_WRITABLE"
  | sinkFailed .. => some "E_SINK_WRITE"
  | inferenceFailed .. => some "E_SCHEMA_INFER"
  | dryRun .. => some "E_PREVIEW"
  | execution .. => some "E_EXECUTION"
  | sorting _ => some "E_SORT"

/-- The name of the failure's class. -/
def name : Fault → String
  | eval fault => fault.kind.name
  | schema _ => Blame.definition.name
  | user blame _ _ => blame.name
  | _ => Blame.run.name

def hint : Fault → Option String
  | eval _ => none
  | schema fault => fault.hint
  | user _ _ hint => hint
  | sourceMissing _ => some "Check the path, or the working directory the pipeline runs from."
  | sourceGone _ => some "The file was moved or deleted after the table was opened."
  | sourceUnreadable .. => some "Check file permissions and CSV options (delimiter/encoding)."
  | sinkFolderMissing _ => some "Create the directory or choose a different output path."
  | sinkRefused .. => some "Check permissions or choose a different output location."
  | sinkFailed .. => some "Check file permissions and Sink options (delimiter/encoding)."
  | inferenceFailed .. => some "Declare the types yourself with set_type(column, type)."
  | dryRun _ cause =>
    if cause.code?.isSome then cause.hint
    else some
      "The dry run on the first rows failed; check the function and the column types it receives."
  | execution .. => some
    "Use preview() on the table to reproduce, or compute with raise_on_error=False to collect failures."
  | sorting _ => some
    "Check the operations and that the sort columns hold mutually comparable values."

/-- The message, and with it the text that other failures quote. -/
def describe : Fault → String × String
  | eval fault => (fault.message, fault.message)
  | schema fault => coded fault.code fault.message fault.hint
  | user _ message hint => coded "E_USER" message hint
  | f@(sourceMissing uri) | f@(sourceGone uri) =>
    coded "E_SOURCE_NOT_FOUND" s!"Source file not found: '{uri}'." f.hint
  | f@(sourceUnreadable uri cause) =>
    coded "E_SOURCE_READ" s!"Could not read header of '{uri}': {cause.message}" f.hint
  | f@(sinkFolderMissing folder) =>
    coded "E_SINK_DIR_NOT_FOUND" s!"Output directory does not exist: '{folder}'." f.hint
  | f@(sinkRefused uri _) => coded "E_SINK_NOT_WRITABLE" s!"Cannot write to '{uri}'." f.hint
  | f@(sinkFailed uri cause) =>
    coded "E_SINK_WRITE"
      s!"Could not write sink '{uri}': {cause.name}: {(describe cause).2}" f.hint
  | f@(inferenceFailed uri cause) =>
    coded "E_SCHEMA_INFER" s!"Schema inference failed for '{uri}': {cause.message}" f.hint
  | f@(dryRun call cause) =>
    let (message, text) := describe cause
    let reason := if cause.code?.isSome then message else s!"{cause.name}: {text}"
    coded "E_PREVIEW" s!"{call.complaint} (original error: {reason})" f.hint
  | f@(execution stage place cause) =>
    let said := s!"{cause.name}: {(describe cause).2}"
    coded "E_EXECUTION" s!"{stage.name} stage failed on {place.text} (original error: {said})"
      f.hint
  | f@(sorting cause) =>
    coded "E_SORT" s!"sort failed (original error: {cause.name}: {(describe cause).2})" f.hint
where
  coded (code message : String) (hint : Option String) : String × String :=
    (message, codedText code message hint)

def message (fault : Fault) : String := fault.describe.1

/-- The whole text of a failure. -/
def text (fault : Fault) : String := fault.describe.2

/-- The failure in one line, as a report shows it. -/
def line (fault : Fault) : String := s!"{fault.name}: {fault.text}"

/-- The failure behind this one. -/
def cause : Fault → Option Fault
  | schema fault => fault.cause.map eval
  | sourceUnreadable _ cause | inferenceFailed _ cause => some (eval cause)
  | sinkRefused _ cause | sinkFailed _ cause | dryRun _ cause | execution _ _ cause
  | sorting cause => some cause
  | _ => none

/-- How a failure is named as the cause of another one: by its code, else by its kind. -/
def causeName (fault : Fault) : String := fault.code?.getD fault.name

end Fault

end TablePipeline
