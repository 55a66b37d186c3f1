import TablePipeline.Datum.Show
import TablePipeline.Fault.Basic
import TablePipeline.Names
import TablePipeline.Settings

/-!
Options of a run: how many workers there are, what happens to a row that fails, whether rows keep
their order, and which columns are written. Options are checked before anything runs; the first
mistake is reported.
-/
namespace TablePipeline

structure RunOptions where
  workers : Nat := 1
  raiseOnError : Bool := false
  preserveOrder : Bool := true
  select : Option (List String) := none
  exclude : Option (List String) := none
  /-- The folder in which records are put aside. -/
  folder : Arg := .null

namespace RunOptions

def maxWorkers : Nat := 8

/-- The names of the options. -/
def settingNames : List String :=
  ["num_workers", "raise_on_error", "preserve_order", "select", "exclude", "tempdir"]

def signature : Signature := ⟨"ComputeOptions.__init__()", ["self"], settingNames⟩

def workersOf (arg : Arg) : Except Fault Nat :=
  match arg with
  | .int i =>
    if i < 1 then .error (.schema (.optionWorkers arg.literal))
    else if (maxWorkers : Int) < i then .error (.schema (.tooManyWorkers i))
    else .ok i.toNat
  | _ => .error (.schema (.optionWorkers arg.literal))

def flagOf (option : String) : Arg → Except Fault Bool
  | .bool b => .ok b
  | _ => .error (.schema (.optionFlag option))

/-- A column name, or a list of column names, as a list; nothing stays nothing. -/
def namesOf (option : String) (arg : Arg) : Except Fault (Option (List String)) :=
  let named (d : Arg) : Option String :=
    match d with
    | .text name => if name == "" then none else some name
    | _ => none
  let items? :=
    match arg with
    | .text _ => some [arg]
    | _ => arg.items?
  match arg, items? with
  | .null, _ => .ok none
  | _, some items =>
    match items.mapM named with
    | some names => .ok (some names)
    | none => .error (.schema (.optionNames option))
  | _, none => .error (.schema (.optionNames option))

/-- The options that settings describe; what they do not name keeps its usual value. -/
def ofSettings (settings : Settings) : Except Fault RunOptions := do
  (signature.check settings).mapError Fault.eval
  let workers ← workersOf (settings.get "num_workers" (.int 1))
  let raiseOnError ← flagOf "raise_on_error" (settings.get "raise_on_error" (.bool false))
  let preserveOrder ← flagOf "preserve_order" (settings.get "preserve_order" (.bool true))
  let select ← namesOf "select" (settings.get "select" .null)
  let exclude ← namesOf "exclude" (settings.get "exclude" .null)
  if select.isSome && exclude.isSome then throw (.schema .selectAndExclude)
  if select == some [] then throw (.schema .selectEmpty)
  pure
    { workers, raiseOnError, preserveOrder, select, exclude
      folder := settings.get "tempdir" .null }

/-- The columns to write out of those that there are; `none` stands for all of them. -/
def chosenNames (options : RunOptions) (names : List Value) :
    Except Fault (Option (List Value)) :=
  match options.select, options.exclude with
  | some select, _ => .ok (some (select.map .text))
  | none, some exclude =>
    let kept := names.filter fun name => !Names.contain (exclude.map .text) name
    if kept.isEmpty then .error (.schema .excludeAll) else .ok (some kept)
  | none, none => .ok none

end RunOptions

/-- The usual number of rows that are read together. -/
def defaultBatchSize : Nat := 300

/-- A number of rows that are read together. -/
def batchSizeOf (arg : Arg) : Except Fault Nat :=
  match arg with
  | .int i => if 0 < i then .ok i.toNat else .error (.schema (.optionBatch arg.literal))
  | _ => .error (.schema (.optionBatch arg.literal))

end TablePipeline
