/-!
Runs of names of characters with consecutive codes.
-/
namespace TablePipeline.Text

/-- A run has the code of its first character, what all of its names begin with, and how they go
on, with semicolons between one and the next. -/
structure NameRun where
  first : Nat
  stem : String
  endings : String

namespace NameRun

/-- The names of a run. -/
def names (run : NameRun) : List String := (run.endings.splitOn ";").map (run.stem ++ ·)

end NameRun

end TablePipeline.Text
