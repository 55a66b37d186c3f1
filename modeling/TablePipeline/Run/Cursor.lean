import TablePipeline.Datum.Order
import TablePipeline.Datum.Show
import TablePipeline.Feed
import TablePipeline.Func.Basic

/-!
Cursors: reading the rows of a feed one by one or in batches, with checkpoints. A checkpoint is the
number of rows handed out so far; a new cursor that recovers from it goes on with the row after
them. Rows are numbered from 0 before any are skipped, so they keep their numbers. A cursor whose
feed has failed has nothing left to hand out.
-/
namespace TablePipeline

/-- A row with its number in the file. -/
structure NumberedRow where
  id : Nat
  values : Row

/-- Number the rows of a feed. -/
def Feed.numbered (feed : Feed Row) : Feed NumberedRow :=
  ⟨feed.items.zipIdx.map fun (values, id) => { id, values }, feed.fault⟩

/-- Where to resume: an argument that counts as false stands for the start. -/
def resumePoint (offset : Arg) : Except EvalFault Nat :=
  if !offset.truth then .ok 0
  else
    match offset with
    | .bool _ => .ok 1
    | .int i => if 0 ≤ i && i ≤ 9223372036854775807 then .ok i.toNat else .error .badOffset
    | _ => .error .badOffset

/-- The numbered rows from an offset on. -/
def Feed.resumed (feed : Feed Row) (offset : Arg) : Except EvalFault (Feed NumberedRow) := do
  .ok (feed.numbered.drop (← resumePoint offset))

structure Cursor where
  /-- All rows, from which the cursor can start again. -/
  feed : Feed Row
  keepsCheckpoints : Bool := true
  /-- The rows that are left, once reading has started. -/
  left? : Option (Feed NumberedRow) := none
  position : Nat := 0
  /-- The position as it was given, until the next row is handed out. -/
  given? : Option Value := none
  completed : Bool := false

namespace Cursor

/-- Start again at an offset. An offset that is no position is refused. -/
def recover (c : Cursor) (offset : Arg) : Except EvalFault Unit × Cursor :=
  let c := { c with completed := false }
  match resumePoint offset with
  | .ok position =>
    let given? := if offset.truth then offset.toValue? else none
    (.ok (), { c with left? := some (c.feed.numbered.drop position), position, given? })
  | .error fault => (.error fault, c)

/-- The rows that are left. -/
def left (c : Cursor) : Feed NumberedRow := c.left?.getD c.feed.numbered

/-- Hand out the next row, or nothing at the end. -/
def next (c : Cursor) : Except Fault (Option NumberedRow) × Cursor :=
  match c.left.items, c.left.fault with
  | row :: rest, fault =>
    (.ok (some row),
      { c with left? := some ⟨rest, fault⟩, position := c.position + 1, given? := none })
  | [], some fault => (.error fault, { c with left? := some .empty })
  | [], none => (.ok none, { c with left? := some .empty, completed := true })

/-- Hand out up to `size` rows. If the feed fails in between, the rows before are lost. -/
def nextBatch (c : Cursor) (size : Nat) : Except Fault (List NumberedRow) × Cursor :=
  match size with
  | 0 => (.ok [], c)
  | size + 1 =>
    match c.next with
    | (.error fault, c) => (.error fault, c)
    | (.ok none, c) => (.ok [], c)
    | (.ok (some row), c) =>
      match nextBatch c size with
      | (.error fault, c) => (.error fault, c)
      | (.ok rows, c) => (.ok (row :: rows), c)

/-- The number of rows that come before an argument is reached by counting. -/
def batchSizeOf (c : Cursor) (size : Arg) : Except EvalFault Nat :=
  match size with
  | .int i => .ok i.toNat
  | .bool b => .ok b.toNat
  | .float (.infinite false) => .ok (c.left.items.length + 1)
  | .float x =>
    match x.toDyadic? with
    | some (num, shift) => .ok ((num + (Int.pow 2 shift - 1)).fdiv (Int.pow 2 shift)).toNat
    | none => .ok 0
  | _ => .error (Datum.noOrder .lt (.int 0) size)

/-- Hand out rows as long as there are fewer than an argument says. -/
def nextBatchFor (c : Cursor) (size : Arg) : Except Fault (List NumberedRow) × Cursor :=
  match c.batchSizeOf size with
  | .ok size => c.nextBatch size
  | .error stop => (.error (.eval stop), c)

/-- Hand out all rows that are left. -/
def rest (c : Cursor) : Except Fault (List NumberedRow) × Cursor :=
  c.nextBatch (c.left.items.length + 1)

/-- The number of rows handed out so far, if the cursor keeps checkpoints. -/
def checkpoint (c : Cursor) : Option Value :=
  if c.keepsCheckpoints then some (c.given?.getD (.int c.position)) else none

end Cursor

end TablePipeline
