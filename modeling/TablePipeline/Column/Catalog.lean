import TablePipeline.Column.Type
import TablePipeline.Datum.Order
import TablePipeline.Names

/-!
The catalog of a table: its columns, the operations on them and the formatters that are applied when
a row is written. Every column has a slot. Slots are numbered in order of their creation, are never
renumbered and never removed: a deleted column keeps its slot and is marked as deleted. The first
slots belong to the columns of the file. The order in which columns are shown is a list of slots of
its own. Whoever looks up columns may bring a list of them along, in place of the one that the catalog
makes of its slots.
-/
namespace TablePipeline

structure Slot where
  name : Value
  type : ColumnType := .string
  parser? : Option Func := none
  deleted : Bool := false
  /-- Whether the column is one of the file; the others are made by operations. -/
  source : Bool := true

/-- Numbers as they are shown in a list. -/
def numbersText (numbers : List Nat) : String :=
  "[" ++ ", ".intercalate (numbers.map toString) ++ "]"

/-- A function from some slots of a row to one slot. -/
structure Operation where
  func : Func
  inputs : List Nat
  output : Nat
  /-- Whether the operation formats a column for writing. -/
  formats : Bool := false

def Operation.text (op : Operation) : String :=
  let verb := if op.formats then "format" else "operate"
  s!"{verb} {op.func.label}{numbersText op.inputs} -> {op.output}"

structure Catalog where
  slots : List Slot
  /-- All slots in the order of the columns, deleted ones included. -/
  order : List Nat
  /-- The number of columns of the file. -/
  sourceWidth : Nat
  operations : List Operation := []
  /-- The formatters with their slots, the most recently set one last. -/
  formatters : List (Nat × Func) := []

namespace Catalog

/-- A catalog of columns with names that are all different. -/
def ofNames (names : List Value) : Except Fault Catalog := do
  let _ ← Names.distinct names
  .ok {
    slots := names.map fun name => { name }
    order := List.range names.length
    sourceWidth := names.length }

def width (c : Catalog) : Nat := c.slots.length

def isLive (c : Catalog) (slot : Nat) : Bool :=
  match c.slots[slot]? with
  | some s => !s.deleted
  | none => false

/-- The slots of the columns that are not deleted, in the order of the columns. -/
def live (c : Catalog) : List Nat := c.order.filter c.isLive

def nameOf (c : Catalog) (slot : Nat) : Value := (c.slots[slot]?.map (·.name)).getD .null

/-- The name of a slot that may not be there; negative numbers count from the last slot. -/
def nameAt (c : Catalog) (slot : Int) : Except EvalFault Value :=
  let place := if slot < 0 then slot + c.width else slot
  match if place < 0 then none else c.slots[place.toNat]? with
  | some s => .ok s.name
  | none => .error .indexOutOfRange

/-- The names of the columns in their order. -/
def names (c : Catalog) (index : List Nat := c.live) : List Value := index.map c.nameOf

/-- The slot of the column that a text names. -/
def slotNamed? (c : Catalog) (name : String) (index : List Nat := c.live) : Option Nat :=
  index.find? fun slot => (c.nameOf slot).isMatch (.text name)

/-- Whether a number is that of a slot whose column is not deleted. -/
def isLiveAt (c : Catalog) (slot : Int) : Bool := 0 ≤ slot && c.isLive slot.toNat

/-- Whether an argument is the number of a slot whose column is not deleted. -/
def checkLive (c : Catalog) (slot : Arg) : Except EvalFault Bool := do
  if !(← Datum.related .le (.int 0) slot) then pure false
  else if !(← Datum.related .lt slot (.int c.width)) then pure false
  else
    match slot with
    | .bool b => pure (c.isLive b.toNat)
    | .int i => pure (c.isLive i.toNat)
    | _ => throw (.notIndex slot.qualifiedKind)

def typeOf (c : Catalog) (slot : Nat) : ColumnType :=
  match c.slots[slot]? with
  | some s => s.type
  | none => .string

/-- The names of the columns with the tags of their types. -/
def types (c : Catalog) (index : List Nat := c.live) : List (Value × String) :=
  index.map fun slot => (c.nameOf slot, (c.typeOf slot).tag)

/-- The parsers of the columns of the file. -/
def parsers (c : Catalog) : List (Option Func) :=
  (c.slots.take c.sourceWidth).map (·.parser?)

def formatter? (c : Catalog) (slot : Nat) : Option Func := c.formatters.lookup slot

def formatOperations (c : Catalog) : List Operation :=
  c.formatters.map fun (slot, f) => { func := f, inputs := [slot], output := slot, formats := true }

/-- The operations in the order in which they run: formatters come after all others. -/
def allOperations (c : Catalog) (withFormats : Bool) : List Operation :=
  if withFormats then c.operations ++ c.formatOperations else c.operations

/-- The slot of the column that an argument names. -/
def slotOf (c : Catalog) (arg : Arg) (index : List Nat := c.live) : Except Fault Nat :=
  match arg.text?.bind fun name => c.slotNamed? name index with
  | some slot => .ok slot
  | none => .error (Names.blame (.unknownName arg.literal) (c.names index))

/-- The slots of the columns that an argument names, one or many. -/
def resolve {φ : Type} [FunctionText φ] (c : Catalog) (arg : Datum φ) (index : List Nat := c.live) :
    Except Fault (List Nat) :=
  let wanted := arg.asList
  let found := wanted.map fun d => (d, d.text?.bind fun name => c.slotNamed? name index)
  let missing := (found.filter fun (_, slot?) => slot?.isNone).map (·.1)
  if missing.isEmpty then .ok (found.filterMap (·.2))
  else .error (Names.blame (.unknownNames (Datum.list missing).literal) (c.names index))

/-- The slots of the columns with the given names. -/
def resolveNames (c : Catalog) (names : List String) : Except Fault (List Nat) :=
  c.resolve (Datum.list (names.map .text) : Value)

/-- The catalog in one line. -/
def text (c : Catalog) (index : List Nat := c.live) : String :=
  s!"ColumnCatalog({(Datum.list (c.names index)).literal})"

end Catalog

end TablePipeline
