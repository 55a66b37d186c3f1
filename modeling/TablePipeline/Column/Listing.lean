import TablePipeline.Column.Change

/-!
Catalogs that keep the list of their columns. The list is made when columns are looked up for the
first time. Whoever looks up columns afterwards is given the list that is kept, until a call that
changes the columns drops it.
-/
namespace TablePipeline

/-- The calls that change a catalog. -/
inductive CatalogCall where
  | operate (func columns newName : Arg)
  | setType (type column : Arg)
  | setParser (parser column : Arg)
  | setFormatter (formatter column : Arg)
  | delete (columns : Arg)
  | reorder (newOrder : Arg)
  | rename (newNames : Arg)

namespace CatalogCall

/-- What the call does. Only an operation has a result: the slot that it writes. -/
def change (listing : Catalog → List Nat) : CatalogCall → Change (Option Nat)
  | operate func columns newName => do pure (some (← Catalog.operate func columns newName listing))
  | setType type column => do Catalog.setType type column listing; pure none
  | setParser parser column => do Catalog.setParser parser column listing; pure none
  | setFormatter formatter column => do Catalog.setFormatter formatter column listing; pure none
  | delete columns => do Catalog.delete columns listing; pure none
  | reorder newOrder => do Catalog.reorder newOrder listing; pure none
  | rename newNames => do Catalog.rename newNames listing; pure none

/-- Whether the call gets as far as to look up columns. -/
def looks : CatalogCall → Bool
  | operate func .. => func.func?.isSome
  | setType type _ => (ColumnType.ofArg type).isOk
  | setParser f _ | setFormatter f _ => f.func?.isSome
  | delete _ => true
  | reorder items | rename items => items.elements.isOk

/-- Whether the call drops the list of the columns when it takes place. -/
def relists : CatalogCall → Bool
  | operate _ _ newName => !newName.isNull
  | delete _ | reorder _ | rename _ => true
  | setType .. | setParser .. | setFormatter .. => false

end CatalogCall

structure ListedCatalog where
  catalog : Catalog
  /-- The slots of the columns as they were listed last, if the list is kept. -/
  listed? : Option (List Nat) := none

namespace ListedCatalog

/-- The slots of the columns in their order, from the list if there is one. -/
def index (c : ListedCatalog) : List Nat := c.listed?.getD c.catalog.live

/-- The catalog after its columns were looked up. -/
def read (c : ListedCatalog) : ListedCatalog := { c with listed? := some c.index }

def names (c : ListedCatalog) : List Value := c.catalog.names c.index

/-- The names of the columns with their slots. -/
def keyIndex (c : ListedCatalog) : List (Value × Nat) :=
  c.index.map fun slot => (c.catalog.nameOf slot, slot)

/-- A copy, which has to list its columns anew. -/
def clone (c : ListedCatalog) : ListedCatalog := { catalog := c.catalog }

/-- The outcome of a call and the catalog after it. -/
def perform (c : ListedCatalog) (call : CatalogCall) : Except Fault (Option Nat) × ListedCatalog :=
  let (outcome, catalog) := (call.change fun _ => c.index).apply c.catalog
  let kept := if call.looks then some c.index else c.listed?
  (outcome, { catalog, listed? := if call.relists && outcome.isOk then none else kept })

end ListedCatalog

end TablePipeline
