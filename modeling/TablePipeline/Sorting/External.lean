import TablePipeline.Datum.Mark
import TablePipeline.Datum.Order
import TablePipeline.Feed
import TablePipeline.Names
import TablePipeline.Sorting.Stable

/-!
Sorting of long feeds. The items are cut into chunks, each chunk is sorted on its own, and the
sorted runs are merged. All items are read before the first one is handed out, so a feed that breaks
off is never sorted in part.
-/
namespace TablePipeline.Sorting

variable {α : Type}

/-- Merge two sorted runs, the second of which may break off; of equal items the one of the first
run comes first. A comparison that fails ends the merge. -/
def merge (less : α → α → Except Fault Bool) : List α → List α → Option Fault → Feed α
  | [], ys, fault => ⟨ys, fault⟩
  | _ :: _, [], some fault => .failed fault
  | x :: xs, [], none => ⟨x :: xs, none⟩
  | x :: xs, y :: ys, fault =>
    match less y x with
    | .error stop => .failed stop
    | .ok true => .cons y (merge less (x :: xs) ys fault)
    | .ok false => .cons x (merge less xs (y :: ys) fault)
  termination_by xs ys => xs.length + ys.length

/-- Merge sorted runs; earlier runs come first among equal items. -/
def mergeAll (less : α → α → Except Fault Bool) (runs : List (List α)) : Feed α :=
  runs.foldr (fun run rest => merge less run rest.items rest.fault) .empty

/-- Sort the chunks one by one; a feed that breaks off does so after its whole chunks are sorted. A
single chunk that is not full stays in memory, all others are put aside. -/
def sortChunks (less : α → α → Except Fault Bool) (putAside : α → α) (size : Nat)
    (feed : Feed α) : Except Fault (List (List α)) := do
  let runs ← (feed.batches size).items.mapM (sort less)
  match feed.fault with
  | none => pure (if feed.items.length < size then runs else runs.map (·.map putAside))
  | some fault => throw fault

/-- Sort a feed with chunks of `size` items. -/
def externalSort (less : α → α → Except Fault Bool) (putAside : α → α) (size : Nat)
    (feed : Feed α) : Feed α :=
  match sortChunks less putAside size feed with
  | .error fault => .failed fault
  | .ok runs => mergeAll less runs

/-- Sort rows with chunks of `size` rows, which are put aside in a folder. What is wrong with the
folder shows once the first whole chunk has been sorted. -/
def sortRows (less : Row → Row → Except Fault Bool) (size : Nat) (folder : Arg) (rows : Feed Row) :
    Feed Row :=
  match folder.requireFolder with
  | .ok () => externalSort less (Datum.forgetItems true) size rows
  | .error stop =>
    if rows.items.length < size then externalSort less id size rows
    else
      match sort less (rows.items.take size) with
      | .error fault => .failed fault
      | .ok _ => .failed (.eval stop)

/-- The number of items in a chunk. -/
def chunkSizeOf (arg : Arg) : Except Fault Nat := do
  if ← (Datum.related .le arg (.int 0)).mapError Fault.eval then
    throw (.schema (.sortChunkSize arg.literal))
  match arg with
  | .bool _ => pure 1
  | .int i => if i ≤ 9223372036854775807 then pure i.toNat else throw (.eval .badCount)
  | _ => throw (.eval .badCount)

/-- The usual number of items that are sorted together. -/
def defaultChunk : Nat := 100000

/-- Sort rows with chunks of as many rows as an argument asks for. No row is read if it asks for a
number that cannot be. -/
def sortRowsBy (less : Row → Row → Except Fault Bool) (chunk folder : Arg) (rows : Feed Row) :
    Feed Row :=
  match chunkSizeOf chunk with
  | .error fault => .failed fault
  | .ok size => sortRows less size folder rows

end TablePipeline.Sorting
