/-!
Stable sorting with a comparison that may fail. The longest run at the front that is ascending, or
strictly descending and then turned round, is kept; every further item is put into its place behind
the items that are not greater. Places are found by bisection.
-/
namespace TablePipeline.Sorting

variable {α ε : Type}

/-- The place between `lo` and `hi` that a search finds which goes on to the left of an item when
`left` holds of it, and to its right otherwise. -/
def bisect (left : α → Except ε Bool) (items : Array α) (lo hi : Nat) : Except ε Nat :=
  if lo < hi then
    match items[(lo + hi) / 2]? with
    | none => .ok lo
    | some a =>
      match left a with
      | .error fault => .error fault
      | .ok true => bisect left items lo ((lo + hi) / 2)
      | .ok false => bisect left items ((lo + hi) / 2 + 1) hi
  else .ok lo
  termination_by hi - lo

/-- The place for an item in front of all that are not less. -/
def placeBefore (less : α → α → Except ε Bool) (items : Array α) (a : α) : Except ε Nat :=
  bisect (fun b => do .ok !(← less b a)) items 0 items.size

/-- The place for an item behind all that are not greater. -/
def placeAfter (less : α → α → Except ε Bool) (items : Array α) (a : α) : Except ε Nat :=
  bisect (less a) items 0 items.size

/-- Put an item behind those that are not greater. -/
def insertItem (less : α → α → Except ε Bool) (items : Array α) (a : α) : Except ε (Array α) := do
  let place ← placeAfter less items a
  .ok (items.take place ++ #[a] ++ items.drop place)

/-- The items that go on a run, in order, and those after them. A run goes on while the comparison
of an item with the one before it has the result `descending`. -/
def runFrom (less : α → α → Except ε Bool) (descending : Bool) :
    α → List α → Except ε (List α × List α)
  | _, [] => .ok ([], [])
  | last, a :: rest => do
    if (← less a last) == descending then
      let (run, more) ← runFrom less descending a rest
      .ok (a :: run, more)
    else .ok ([], a :: rest)

/-- The run at the front, in ascending order, and the items after it. -/
def firstRun (less : α → α → Except ε Bool) : List α → Except ε (List α × List α)
  | [] => .ok ([], [])
  | [a] => .ok ([a], [])
  | a :: b :: rest => do
    let descending ← less b a
    let (run, more) ← runFrom less descending b rest
    .ok (if descending then (a :: b :: run).reverse else a :: b :: run, more)

/-- Sort; equal items keep their order. -/
def sort (less : α → α → Except ε Bool) (items : List α) : Except ε (List α) := do
  let (run, more) ← firstRun less items
  .ok (← more.foldlM (insertItem less) run.toArray).toList

end TablePipeline.Sorting
