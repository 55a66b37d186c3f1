import TablePipeline.Column.Catalog

/-!
Changes of a catalog. A change checks its arguments and then alters the catalog; when a check fails,
the catalog is as it was. It looks up columns in a list of them, before it alters anything.
-/
namespace TablePipeline

/-- A change: it may fail, and leaves a catalog behind in any case. -/
abbrev Change (α : Type) := ExceptT Fault (StateM Catalog) α

namespace Change

variable {α : Type}

/-- The outcome of a change and the catalog after it. -/
def apply (change : Change α) (c : Catalog) : Except Fault α × Catalog := change c

/-- A question to the catalog. -/
def ask (question : Catalog → Except Fault α) : Change α := do
  let c ← get
  match question c with
  | .ok a => pure a
  | .error fault => throw fault

/-- A check of an argument. -/
def check (outcome : Except Fault α) : Change α := ask fun _ => outcome

end Change

namespace Catalog

def setSlot (c : Catalog) (slot : Nat) (f : Slot → Slot) : Catalog :=
  { c with slots := c.slots.modify slot f }

def removeFormatter (c : Catalog) (slot : Nat) : Catalog :=
  { c with formatters := c.formatters.filter fun (there, _) => there != slot }

/-- Set the formatter of a slot, and make it the last one that runs. -/
def putFormatter (c : Catalog) (slot : Nat) (f : Func) : Catalog :=
  { c.removeFormatter slot with formatters := (c.removeFormatter slot).formatters ++ [(slot, f)] }

/-- Give a column of the file a type and a parser. -/
def retype (slot : Nat) (type : ColumnType) (parser : Func) : Change Unit := do
  let c ← get
  match c.slots[slot]? with
  | some s =>
    if s.source then
      set (c.setSlot slot fun s => { s with type, parser? := some parser })
    else throw (.schema (.derivedColumn s.name.literal))
  | none => throw (.eval .indexOutOfRange)

/-- Parse a column as a type, and format it as that type. -/
def setType (type column : Arg) (listing : Catalog → List Nat := live) : Change Unit := do
  let type ← Change.check (ColumnType.ofArg type)
  let slot ← Change.ask fun c => c.slotOf column (listing c)
  retype slot type type.parser
  modify (·.putFormatter slot type.formatter)

/-- Parse a column with a function; its values are written as they are. -/
def setParser (parser column : Arg) (listing : Catalog → List Nat := live) : Change Unit := do
  match parser with
  | .func f =>
    let slot ← Change.ask fun c => c.slotOf column (listing c)
    retype slot .raw f
    modify (·.removeFormatter slot)
  | _ => throw (.schema .parserNotFunction)

def setFormatter (formatter column : Arg) (listing : Catalog → List Nat := live) : Change Unit := do
  match formatter with
  | .func f =>
    let slot ← Change.ask fun c => c.slotOf column (listing c)
    modify (·.putFormatter slot f)
  | _ => throw (.schema .formatterNotFunction)

/-- Add a slot for a column that an operation makes. -/
def addDerived (name : String) : Change Nat := do
  let slot := (← get).width
  modify fun c => { c with
    slots := c.slots ++ [{ name := .text name, type := .raw, source := false }]
    order := c.order ++ [slot] }
  pure slot

/-- The slot that an operation writes: its only input, or the slot of a new column. -/
def outputSlot (inputs : List Nat) (newName : Arg) (listing : Catalog → List Nat := live) :
    Change Nat := do
  match newName with
  | .null =>
    match inputs with
    | [slot] => pure slot
    | _ => throw (.schema .inPlaceCount)
  | .text name =>
    if name == "" then throw (.schema .newNameForm)
    else
      let c ← get
      if (c.slotNamed? name (listing c)).isSome then throw (.schema (.newNameTaken name))
      else addDerived name
  | _ => throw (.schema .newNameForm)

/-- Add an operation. Without a new name it replaces its only column, else it makes a new one. -/
def operate (func columns newName : Arg) (listing : Catalog → List Nat := live) : Change Nat := do
  match func with
  | .func f =>
    let inputs ← Change.ask fun c => c.resolve columns (listing c)
    let output ← outputSlot inputs newName listing
    modify fun c => { c with operations := c.operations ++ [{ func := f, inputs, output }] }
    pure output
  | _ => throw (.schema .operationNotFunction)

/-- Mark columns as deleted. -/
def delete {φ : Type} [FunctionText φ] (columns : Datum φ) (listing : Catalog → List Nat := live) :
    Change Unit := do
  let slots ← Change.ask fun c => c.resolve columns (listing c)
  modify fun c => slots.foldl (fun c slot => c.setSlot slot fun s => { s with deleted := true }) c

/-- The slot of the column whose name a datum is. -/
def slotOfItem? (c : Catalog) (index : List Nat) (item : Arg) : Option Nat := do
  let name ← item.toValue?
  index.find? fun slot => (c.nameOf slot).isMatch name

/-- Put the columns into a new order, which must name each of them once. -/
def reorder (newOrder : Arg) (listing : Catalog → List Nat := live) : Change Unit := do
  let items ← Change.check (newOrder.elements.mapError Fault.eval)
  let c ← get
  let index := listing c
  if items.length != index.length then throw (Names.blame .reorderNames (c.names index))
  Change.check ((items.forM Datum.requireKey).mapError Fault.eval)
  let front := items.filterMap (c.slotOfItem? index)
  if front.length != items.length || front.eraseDups.length != front.length then
    throw (Names.blame .reorderNames (c.names index))
  modify fun c => { c with order := front ++ c.order.filter fun slot => !c.isLive slot }

/-- The names that items are, if they all are texts that are not empty. -/
def newNames? (items : List Arg) : Option (List String) :=
  items.mapM fun d =>
    match d with
    | .text name => if name == "" then none else some name
    | _ => none

/-- Give the columns, in their order, new names. -/
def rename (newNames : Arg) (listing : Catalog → List Nat := live) : Change Unit := do
  let items ← Change.check (newNames.elements.mapError Fault.eval)
  let c ← get
  let index := listing c
  if items.length != index.length then
    throw (Names.blame (.renameCount items.length) (c.names index))
  match newNames? items with
  | none => throw (.schema .renameNames)
  | some names =>
    let _ ← Change.check (Names.distinct items)
    modify fun c => (index.zip names).foldl
      (fun c (slot, name) => c.setSlot slot fun s => { s with name := .text name }) c

end Catalog

end TablePipeline
