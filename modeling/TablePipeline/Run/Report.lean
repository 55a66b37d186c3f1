import TablePipeline.Fault.Basic

/-!
Reports of runs: where the output is, how many rows were written, and what failed.
-/
namespace TablePipeline

/-- Something that a run could not process. -/
structure RowFailure where
  stage : Stage
  place : Place
  fault : Fault

namespace RowFailure

/-- The number of the row, where a single row of a file failed. -/
def rowId? (f : RowFailure) : Option Nat := f.place.rowId?

/-- The failure in one line. -/
def error (f : RowFailure) : String := f.fault.line

end RowFailure

structure Report where
  output : String
  rowsWritten : Nat := 0
  failures : List RowFailure := []

namespace Report

def success (r : Report) : Bool := r.failures.isEmpty

/-- A report in one line, by its output, its number of rows and the number of its failures. -/
def summary (output rows : String) (failures : Nat) : String :=
  let status := if failures == 0 then "success" else s!"{failures} failed row(s)"
  s!"ExecutionReport({output}: {rows} rows, {status})"

def text (r : Report) : String := summary r.output (toString r.rowsWritten) r.failures.length

end Report

end TablePipeline
