import TablePipeline.Table.Basic

/-!
Inference of column types from the text of a file. A column whose cells all write integers is one of
integers, one whose cells all write numbers is one of numbers, and one whose cells all are days is
one of days; every other column is one of texts. Empty cells say nothing.
-/
namespace TablePipeline.Inference

/-- Whether a text writes an integer: digits, perhaps with a sign. -/
def isInteger (s : String) : Bool :=
  match s.toList with
  | '-' :: ds | '+' :: ds => !ds.isEmpty && ds.all Text.isAsciiDigit
  | ds => !ds.isEmpty && ds.all Text.isAsciiDigit

def isNumber (s : String) : Bool := (Numeral.readFloat? s).isSome

def isDay (s : String) : Bool :=
  match Calendar.scanDate "%Y-%m-%d" s with
  | .ok _ => true
  | .error _ => false

/-- What the cells of a column are called. -/
def kindOf (cells : List String) : String :=
  let cells := cells.filter (· != "")
  if cells.isEmpty then "string"
  else if cells.all isInteger then "integer"
  else if cells.all isNumber then "number"
  else if cells.all isDay then "date"
  else "string"

/-- The usual number of rows in a sample. -/
def usualSize : Nat := 200

/-- The texts in a column of rows. -/
def column (rows : List Row) (place : Nat) : List String :=
  rows.map fun row => (row.getD place .null).display

/-- The data rows in a sample of so many rows, of which the first is the header. -/
def dataRows : Arg → Nat
  | .int i => i.toNat - 1
  | .bool b => b.toNat - 1
  | _ => usualSize - 1

end TablePipeline.Inference

namespace TablePipeline.Table

/-- The types that the cells of the file suggest for its columns that are not deleted. -/
def suggestedTypes (store : Store) (t : Table) (sampleRows : Arg) :
    Except Fault (List (Value × String)) := do
  if !store.isFile t.source.uri then
    throw (.inferenceFailed t.source.uri (.notLoaded t.source.uri))
  let rows ← t.source.sample store (Inference.dataRows sampleRows)
  let suggested (slot : Nat) : String :=
    (ColumnType.ofInferred (some (Inference.kindOf (Inference.column rows slot)))).tag
  .ok ((t.catalog.live.filter (· < t.catalog.sourceWidth)).map fun slot =>
    (t.catalog.nameOf slot, suggested slot))

end TablePipeline.Table
