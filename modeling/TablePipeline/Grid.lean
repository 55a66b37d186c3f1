import TablePipeline.Table.Basic

/-!
Grids: records drawn as a table with lines of characters. Every column is as wide as its widest
text; numbers stand at the right of their cells and everything else at the left.
-/
namespace TablePipeline.Grid

def isNumber : Value → Bool
  | .int _ | .float _ => true
  | _ => false

def blanks (count : Nat) : String := String.ofList (List.replicate count ' ')

/-- The width of each column. -/
def widths (names : List String) (rows : List Row) : List Nat :=
  names.zipIdx.map fun (name, i) =>
    rows.foldl (fun width row => max width (row.getD i .null).literal.length) name.length

/-- A line between rows. -/
def ruler (mark : Char) (widths : List Nat) : String :=
  "+" ++ String.join (widths.map fun width =>
    String.ofList (List.replicate (width + 2) mark) ++ "+") ++ "\n"

/-- A cell with its text at the left or at the right. -/
def cell (atRight : Bool) (width : Nat) (text : String) : String :=
  let fill := blanks (width - text.length)
  if atRight then " " ++ fill ++ text ++ " |" else " " ++ text ++ fill ++ " |"

def headerLine (widths : List Nat) (names : List String) : String :=
  "|" ++ String.join ((widths.zip names).map fun (width, name) => cell false width name) ++ "\n"

def rowLine (widths : List Nat) (row : Row) : String :=
  "|" ++ String.join ((widths.zip row).map fun (width, v) => cell (isNumber v) width v.literal) ++
    "\n"

/-- Draw rows under the texts of their names. -/
def draw (names : List String) (rows : List Row) : String :=
  let widths := widths names rows
  let line := ruler '-' widths
  line ++ headerLine widths names ++ ruler '=' widths ++
    String.join (rows.map fun row => rowLine widths row ++ line)

/-- Whether a grid can hold a number of rows besides its header and the mark of what is left out. -/
def canHold : Arg → Bool
  | .int i => i + 2 ≤ Source.maxCount
  | _ => true

/-- The grid of records, drawn to show at most a number of rows. -/
def ofRecords (names : List Value) (records : List Record) (shown : Arg) : Except Fault String := do
  let rows := records.map fun record => names.map fun name => (record.get? name).getD .null
  if !canHold shown then throw (.eval .badCount)
  if rows.any Datum.hasLongIntegers then throw (.eval .unwritableInteger)
  .ok (draw (names.map Datum.display) rows)

end TablePipeline.Grid
