/-!
Character sets that give every character a place by its row and its cell in the row. A set is a list
of runs, each of which holds the characters of one row from one cell on. Where two runs meet, the
earlier one says what is read at the place, and the later one where a character is written.
-/
namespace TablePipeline.Text

/-- Characters that stand next to each other in a row. -/
structure CharacterRun where
  row : Nat
  cell : Nat
  chars : Array Char
  deriving DecidableEq, Repr

structure CharacterSet where
  runs : List CharacterRun
  deriving DecidableEq, Repr

/-- What stands in the place of a cell without a character. -/
def unusedCell : Char := '\ufffd'

namespace CharacterRun

/-- The character in a cell of the row. -/
def char? (run : CharacterRun) (cell : Nat) : Option Char :=
  if cell < run.cell then none
  else run.chars[cell - run.cell]?.filter (· != unusedCell)

/-- The places of a character, the last one first. -/
def places (run : CharacterRun) (c : Char) : List (Nat × Nat) :=
  if c == unusedCell || !run.chars.contains c then []
  else
    (run.chars.toList.zipIdx.filterMap fun (d, cell) =>
      if d == c then some (run.row, run.cell + cell) else none).reverse

end CharacterRun

namespace CharacterSet

/-- A set by its runs, each with its row and its first cell. -/
def ofRuns (runs : List (Nat × Nat × String)) : CharacterSet :=
  ⟨runs.map fun (row, cell, text) => ⟨row, cell, text.toList.toArray⟩⟩

/-- A set by its rows, the first of which is given by its number. -/
def ofRows (first : Nat) (rows : List String) : CharacterSet :=
  .ofRuns (rows.zipIdx.map fun (text, row) => (first + row, 0, text))

/-- A set of consecutive codes, each run with its row, its first cell, its first code and how many
there are. -/
def ofCodes (runs : List (Nat × Nat × Nat × Nat)) : CharacterSet :=
  ⟨runs.map fun (row, cell, code, count) =>
    ⟨row, cell, ((List.range count).map fun n => Char.ofNat (code + n)).toArray⟩⟩

/-- Characters that fill the cells from one to before another one of row after row. -/
def ofCells (firstRow first last : Nat) (rows : Nat) (chars : Array Char) : CharacterSet :=
  let width := last - first
  ⟨(List.range rows).map fun row =>
    ⟨firstRow + row, first, chars.extract (row * width) ((row + 1) * width)⟩⟩

/-- One set on top of another. -/
def onTopOf (upper lower : CharacterSet) : CharacterSet := ⟨upper.runs ++ lower.runs⟩

/-- A set whose rows and cells have been moved on. -/
def moved (rows cells : Nat) (set : CharacterSet) : CharacterSet :=
  ⟨set.runs.map fun run => { run with row := run.row + rows, cell := run.cell + cells }⟩

/-- A set of rows of the given width, two of which become one. -/
def paired (width : Nat) (set : CharacterSet) : CharacterSet :=
  ⟨set.runs.map fun run =>
    { run with row := run.row / 2, cell := run.row % 2 * width + run.cell }⟩

/-- A set with other characters in the places of some. -/
def replacing (others : List (Char × Char)) (set : CharacterSet) : CharacterSet :=
  ⟨set.runs.map fun run =>
    { run with chars := run.chars.map fun c => (others.lookup c).getD c }⟩

/-- The character at a place. -/
def char? (set : CharacterSet) (row cell : Nat) : Option Char :=
  set.runs.findSome? fun run => if run.row == row then run.char? cell else none

/-- Where a character is written: at the last place where it is read, or else at the last place
where it stands below another one. -/
def place? (set : CharacterSet) (c : Char) : Option (Nat × Nat) :=
  let places := set.runs.reverse.flatMap (·.places c)
  places.find? (fun (row, cell) => set.char? row cell == some c) <|> places.head?

/-- The characters of consecutive codes that a set does not have. -/
def missing (set : CharacterSet) (first count : Nat) : Array Char :=
  let here := set.runs.foldl (fun here run =>
    run.chars.foldl (fun here c =>
      if first ≤ c.toNat then here.setIfInBounds (c.toNat - first) true else here) here)
    (Array.replicate count false)
  (List.range count).foldl (fun others n =>
    if here.getD n true then others else others.push (Char.ofNat (first + n))) #[]

end CharacterSet

end TablePipeline.Text
