import TablePipeline.Datum.Basic

/-!
Marks of NaNs. A NaN that is made from a row is marked as it enters the row, so that it is the same
as itself wherever it stands in the row; once the row is left, or data are put aside and read back,
it can no longer be told from others.
-/
namespace TablePipeline.Datum

variable {φ : Type}

/-- Mark a NaN that has no mark yet as the one of a number that was made. -/
def claim (number : Nat) : Datum φ → Datum φ
  | float (.nan .unknown) => float (.nan (.made number))
  | d => d

mutual

/-- Take away the marks of NaNs: of all, or only of those that were made. -/
def forget (all : Bool) : Datum φ → Datum φ
  | float (.nan (.made _)) => float .nan
  | float (.nan (.given n)) => float (if all then .nan else .nan (.given n))
  | list items => list (forgetItems all items)
  | tuple items => tuple (forgetItems all items)
  | record fields => record (forgetFields all fields)
  | d => d

def forgetItems (all : Bool) : List (Datum φ) → List (Datum φ)
  | [] => []
  | d :: rest => forget all d :: forgetItems all rest

def forgetFields (all : Bool) : List (String × Datum φ) → List (String × Datum φ)
  | [] => []
  | (name, d) :: rest => (name, forget all d) :: forgetFields all rest

end

end TablePipeline.Datum
