import TablePipeline.Datum.Order
import TablePipeline.RowTransform

/-!
Orders of rows. An order is a list of columns, each ascending or descending; rows are compared in
the first column in which they differ. A missing value comes before every other one.
-/
namespace TablePipeline

structure SortKey where
  descending : Bool
  slot : Nat
  deriving DecidableEq, Repr

abbrev SortOrder := List SortKey

/-- Compare two values, of which a missing one is the least. -/
def compareMissingFirst (x y : Value) : Except EvalFault Ordering :=
  match x, y with
  | .null, .null => .ok .eq
  | .null, _ => .ok .lt
  | _, .null => .ok .gt
  | x, y => do
    if ← Datum.less x y then .ok .lt
    else if ← Datum.less y x then .ok .gt
    else .ok .eq

namespace SortKey

def compare (key : SortKey) (a b : Row) : Except Fault Ordering := do
  let x ← a.cell key.slot
  let y ← b.cell key.slot
  let o ← (compareMissingFirst x y).mapError Fault.eval
  .ok (if key.descending then o.swap else o)

end SortKey

namespace SortOrder

/-- Compare two rows. -/
def compare : SortOrder → Row → Row → Except Fault Ordering
  | [], _, _ => .ok .eq
  | key :: rest, a, b => do
    match ← key.compare a b with
    | .eq => compare rest a b
    | o => .ok o

def less (order : SortOrder) (a b : Row) : Except Fault Bool := do
  .ok ((← order.compare a b) == .lt)

/-- The direction that a sign stands for: whether it is descending. -/
def descending? (sign : Arg) : Option Bool :=
  match sign with
  | .text "+" => some false
  | .text "-" => some true
  | _ => none

/-- The keys of signs and names in turn. -/
def keysOf (c : Catalog) (bad : Fault) : List Arg → Except Fault SortOrder
  | [] => .ok []
  | [_] => .error bad
  | sign :: name :: rest =>
    match descending? sign, name.text? with
    | some descending, some text =>
      match c.slotNamed? text with
      | some slot => do .ok (⟨descending, slot⟩ :: (← keysOf c bad rest))
      | none => .error (Names.blame (.sortColumn text) c.names)
    | _, _ => .error bad

/-- The order that an argument describes: a list of a sign and a name for each column. -/
def ofArg (c : Catalog) (arg : Arg) : Except Fault SortOrder :=
  match arg.items? with
  | some items =>
    let bad := Fault.schema (.sortOrder (Datum.list items).literal)
    if items.isEmpty || items.length % 2 == 1 then .error bad else keysOf c bad items
  | none => .error (.schema (.sortOrder arg.literal))

end SortOrder

end TablePipeline
