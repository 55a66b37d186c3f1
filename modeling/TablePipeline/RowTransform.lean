import TablePipeline.Datum.Mark
import TablePipeline.RowRules

/-!
Row transforms: what a table does with one row, frozen. A transform parses the fields of the file
and then runs operations and filters in the order in which they were declared; formatters come last.
It gives the values of all slots, or nothing for a row that a filter rejects.
-/
namespace TablePipeline

/-- The value in a slot of a row. -/
def Row.cell (row : Row) (slot : Nat) : Except Fault Value :=
  match row[slot]? with
  | some v => .ok v
  | none => .error (.eval .indexOutOfRange)

/-- The values in some slots of a row. -/
def Row.cells (row : Row) (slots : List Nat) : Except Fault Row := slots.mapM row.cell

/-- Put a value into a slot of a row. -/
def Row.put (row : Row) (slot : Nat) (v : Value) : Except Fault Row :=
  if slot < row.length then .ok (row.set slot v) else .error (.eval .indexOutOfRange)

inductive RowStep where
  | operation (op : Operation)
  | filter (f : RowFilter)

def RowStep.text : RowStep → String
  | operation op => op.text
  | filter f => f.text

/-- Apply a step, whose result is the value of a number that is made from the row; `none` stands for
a row that is rejected. -/
def RowStep.apply (number : Nat) (step : RowStep) (row : Row) : Except Fault (Option Row) :=
  match step with
  | operation op => do
    let v ← op.func.apply (← row.cells op.inputs)
    .ok (some (← row.put op.output (v.claim number)))
  | filter f => do
    let v ← f.predicate.apply (← row.cells f.columns)
    .ok (if v.truth then some row else none)

structure RowTransform where
  /-- The parsers of the fields of the file. -/
  parsers : List (Option Func)
  /-- The number of slots. -/
  width : Nat
  steps : List RowStep

namespace RowTransform

/-- A value after its parser, if it has one. -/
def parseField (parser? : Option Func) (v : Value) : Except Fault Value :=
  match parser? with
  | some f => f.apply [v]
  | none => .ok v

/-- The fields of the file after their parsers, the first of them numbered `number`: missing fields
are filled up, excess ones cut. -/
def parseFields (number : Nat) : List (Option Func) → Row → Except Fault Row
  | [], _ => .ok []
  | parser? :: parsers, values => do
    let v ← parseField parser? (values.headD .null)
    .ok (v.claim number :: (← parseFields (number + 1) parsers values.tail))

/-- Run steps, the first of them numbered `number`, until one rejects the row. -/
def runSteps (number : Nat) : List RowStep → Row → Except Fault (Option Row)
  | [], row => .ok (some row)
  | step :: rest, row => do
    match ← step.apply number row with
    | some row => runSteps (number + 1) rest row
    | none => .ok none

/-- The values of all slots after the steps, while a NaN is still the same as itself in all of them. -/
def kept (p : RowTransform) (values : Row) : Except Fault (Option Row) := do
  let fields ← parseFields 0 p.parsers values
  runSteps p.parsers.length p.steps
    (fields ++ List.replicate (p.width - p.parsers.length) .null)

/-- The values of all slots for the fields of a row. -/
def run (p : RowTransform) (values : Row) : Except Fault (Option Row) := do
  .ok ((← p.kept values).map (Datum.forgetItems false))

/-- The steps in words. -/
def describe (p : RowTransform) : List String :=
  let parsed := (List.range p.parsers.length).filter fun i => (p.parsers[i]?.join).isSome
  (if parsed.isEmpty then [] else ["parse " ++ numbersText parsed]) ++ p.steps.map RowStep.text

/-- Operations with the filters that were declared between them; `i` operations came before. -/
def interleave (filtersAt : Nat → List RowFilter) : Nat → List Operation → List RowStep
  | i, [] => (filtersAt i).map .filter
  | i, op :: rest =>
    (filtersAt i).map .filter ++ .operation op :: interleave filtersAt (i + 1) rest

/-- The filters that run after `i` of `count` operations. -/
def filtersAfter (rules : RowRules) (count i : Nat) : List RowFilter :=
  rules.filters.filter fun f => min f.position (count : Int) == i

/-- The transform of a table, with or without its formatters. -/
def ofTable (c : Catalog) (rules : RowRules) (withFormats : Bool) : RowTransform where
  parsers := c.parsers
  width := c.width
  steps := interleave (filtersAfter rules c.operations.length) 0 c.operations ++
    (if withFormats then c.formatOperations.map .operation else [])

end RowTransform

end TablePipeline
