import TablePipeline.Column.Catalog

/-!
The rules of a table beside its columns: filters of rows, the keys by which rows are grouped, and
the aggregates of the groups. They name columns by slots, so renaming a column does not touch them.
-/
namespace TablePipeline

/-- Keeps the rows for whose values in some columns a predicate holds. The position is the number of
operations that come before the filter. -/
structure RowFilter where
  columns : List Nat
  predicate : Func
  position : Int

def RowFilter.text (f : RowFilter) : String :=
  s!"filter {f.predicate.label}{numbersText f.columns} @ {f.position}"

structure GroupKey where
  /-- The number of the slot; a negative one counts from the last slot and is never live. -/
  slot : Int
  collation? : Option Func := none

/-- A function of all values that a column has in a group; its result is a column of the output. -/
structure AggregateRule where
  func : Func
  source : Int
  name : Value

structure RowRules where
  filters : List RowFilter := []
  keys : List GroupKey := []
  aggregates : List AggregateRule := []

namespace RowRules

def addFilter (rules : RowRules) (f : RowFilter) : RowRules :=
  { rules with filters := rules.filters ++ [f] }

def addAggregate (rules : RowRules) (a : AggregateRule) : RowRules :=
  { rules with aggregates := rules.aggregates ++ [a] }

def aggregateNames (rules : RowRules) : List Value := rules.aggregates.map (·.name)

def isGrouped (rules : RowRules) : Bool := !rules.keys.isEmpty

def isAggregate (rules : RowRules) : Bool := !rules.aggregates.isEmpty

/-- Whether the table puts out groups and not rows. -/
def makesGroups (rules : RowRules) : Bool := rules.isGrouped || rules.isAggregate

end RowRules

end TablePipeline
