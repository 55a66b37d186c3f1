import TablePipeline.Feed
import TablePipeline.Run.Report

/-!
Outcomes of stages: what a stage hands out until it ends or fails, and what it reports as failed on
the way. A stage that fails is reported by its failure alone.
-/
namespace TablePipeline

structure Outcome (α : Type) extends Feed α where
  failures : List RowFailure := []

namespace Outcome

variable {α : Type}

def empty : Outcome α := { items := [] }

def failed (fault : Fault) : Outcome α := { items := [], fault := some fault }

/-- One item before the others. -/
def cons (a : α) (o : Outcome α) : Outcome α := { o with items := a :: o.items }

/-- One failure before the others. -/
def report (failure : RowFailure) (o : Outcome α) : Outcome α :=
  { o with failures := failure :: o.failures }

/-- Continue with a second stage unless the first one fails. -/
def append (first second : Outcome α) : Outcome α :=
  match first.fault with
  | some _ => first
  | none =>
    { items := first.items ++ second.items
      fault := second.fault
      failures := first.failures ++ second.failures }

/-- Stages one after the other. -/
def concat (stages : List (Outcome α)) : Outcome α := stages.foldr append empty

/-- The outcome of results one after the other. -/
def ofResults (results : Feed (Outcome α)) : Outcome α where
  items := results.items.flatMap fun o => o.items
  fault := results.fault
  failures := results.items.flatMap fun o => o.failures

end Outcome

end TablePipeline
