import TablePipeline.RowTransform

/-!
Plans of groups. Rows that enter the group stage are cut down to the slots that the keys and the
chosen aggregates need; keys and aggregates refer to places in that shorter row. A finished group
has the values of its keys and then the results of its aggregates, and the columns of the output are
picked from these, in any order and as often as they are asked for.
-/
namespace TablePipeline

/-- A place in a list of names or slots. -/
def placeOf {α : Type} [BEq α] (items : List α) (a : α) : Nat := items.idxOf a

/-- Numbers in increasing order, each once. -/
def ascending (numbers : List Nat) : List Nat :=
  (numbers.mergeSort fun a b => a ≤ b).eraseDups

structure GroupPlan where
  /-- The slots that are carried into the group stage. -/
  index : List Nat
  /-- The places of the keys in the carried row, with their collations. -/
  keys : List (Nat × Option Func)
  /-- The chosen aggregates with the places of their values in the carried row. -/
  aggregates : List (Func × Nat)
  /-- The places of the output columns among the keys and results. -/
  writeIndex : List Nat
  names : List Value
  /-- The formatters of places in the carried row. -/
  formatters : List (Nat × Func)

namespace GroupPlan

/-- Whether all rows make one group. -/
def isWhole (p : GroupPlan) : Bool := p.keys.isEmpty

/-- The name under which a plan shows an aggregate. -/
def shownName (f : Func) : String := f.name?.getD f.literal

def numbersValue (numbers : List Nat) : Arg := .list (numbers.map fun (n : Nat) => .int n)

def textsValue (texts : List String) : Arg := .list (texts.map .text)

/-- The plan as a record. -/
def describe (p : GroupPlan) : Arg :=
  .record [
    ("index", numbersValue p.index),
    ("key_positions", numbersValue (p.keys.map (·.1))),
    ("aggregates",
      .list (p.aggregates.map fun (f, place) => .list [.text (shownName f), .int place])),
    ("write_index", numbersValue p.writeIndex),
    ("names", .list (Datum.ofValues p.names)),
    ("formatted_positions", numbersValue ((p.formatters.map (·.1)).mergeSort fun a b => a ≤ b))]

end GroupPlan

namespace GroupSchema

/-- The names of the columns of the groups: the keys and then the aggregates. -/
def names (c : Catalog) (rules : RowRules) : Except Fault (List Value) := do
  let keys ← (rules.keys.mapM fun key => c.nameAt key.slot).mapError Fault.eval
  .ok (keys ++ rules.aggregateNames)

/-- The places of chosen columns among the names. -/
def positions (names : List Value) (select : Option (List Value)) : Except Fault (List Nat) :=
  match select with
  | none => .ok (List.range names.length)
  | some select => Names.places .group names select

/-- The columns that an argument chooses; nothing stands for all. -/
def chosen (select : Arg) : Except EvalFault (Option (List Value)) :=
  match select with
  | .null => .ok none
  | _ => do .ok (some ((← select.elements).map fun d => d.toValue?.getD .null))

/-- The aggregates that chosen columns need, in the order in which they are chosen first. -/
def chosenAggregates (keyCount : Nat) (positions : List Nat) : List Nat :=
  ((positions.filter (keyCount ≤ ·)).map (· - keyCount)).eraseDups

/-- The plan of the chosen columns; keys and chosen aggregates need columns that are not deleted. -/
def plan (c : Catalog) (rules : RowRules) (select : Option (List Value)) :
    Except Fault GroupPlan := do
  if !rules.makesGroups then throw (.schema .nothingToGroup)
  let names ← names c rules
  let positions ← positions names select
  if positions.isEmpty then throw (.schema .selectEmpty)
  let deadKeys := rules.keys.filter fun key => !c.isLiveAt key.slot
  if !deadKeys.isEmpty then
    let dead ← (deadKeys.mapM fun key => c.nameAt key.slot).mapError Fault.eval
    throw (.schema (.deadKeys (Datum.list dead).literal))
  let keyCount := rules.keys.length
  let chosen := chosenAggregates keyCount positions
  let aggregates := chosen.filterMap fun i => rules.aggregates[i]?
  let deadSources := aggregates.filter fun a => !c.isLiveAt a.source
  if !deadSources.isEmpty then
    throw (.schema (.deadSources (Datum.list (deadSources.map (·.name))).literal))
  let index := ascending
    (rules.keys.map (·.slot.toNat) ++ aggregates.map (·.source.toNat))
  let place (slot : Nat) : Nat := placeOf index slot
  pure {
    index
    keys := rules.keys.map fun key => (place key.slot.toNat, key.collation?)
    aggregates := aggregates.map fun a => (a.func, place a.source.toNat)
    writeIndex := positions.map fun p =>
      if p < keyCount then p else keyCount + placeOf chosen (p - keyCount)
    names := positions.map fun p => names.getD p .null
    formatters := (c.formatters.filter fun (slot, _) => index.contains slot).map
      fun (slot, f) => (place slot, f) }

end GroupSchema

end TablePipeline
