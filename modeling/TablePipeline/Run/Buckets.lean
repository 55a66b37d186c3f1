import TablePipeline.Datum.Key
import TablePipeline.Datum.Arithmetic
import TablePipeline.Names

/-!
Buckets: records set apart by the hash of their keys, so that one bucket at a time can be worked on.
Records with equal keys are in one bucket, and a bucket keeps them in the order in which they came.
-/
namespace TablePipeline

/-- How many buckets there are, and the hash that chooses among them. -/
structure Partitioning where
  count : Nat := 32
  hash : Key → Nat := Key.hash
  /-- Why there is no bucket for a record where there are no buckets. -/
  refusal : EvalFault := .zeroModulo
  /-- Why the buckets cannot be made, if they cannot. -/
  fault? : Option EvalFault := none

namespace Partitioning

/-- The usual number of buckets. -/
def usualCount : Nat := 32

/-- As many buckets as an argument says, in a folder. Fewer than none are none. -/
def ofArgs (count folder : Arg) : Partitioning :=
  let counted : Except EvalFault Partitioning := do
    folder.requireFolder
    match count with
    | .bool b => pure { count := b.toNat }
    | .int i =>
      let n ← Datum.repetitions i
      pure { count := n, refusal := if i < 0 then .indexOutOfRange else .zeroModulo }
    | _ => throw (.repeatedByFloat count.qualifiedKind)
  match counted with
  | .ok p => p
  | .error stop => { count := 0, fault? := some stop }

/-- The bucket of a key. The key must be one that has a hash. -/
def bucketOf (p : Partitioning) (key : Key) : Except EvalFault Nat := do
  key.check
  if p.count == 0 then throw p.refusal
  .ok (p.hash key % p.count)

end Partitioning

/-- Records with the numbers of their buckets, in the order in which they came. -/
abbrev Buckets (α : Type) := List (Nat × α)

namespace Buckets

variable {α : Type}

/-- The buckets of records as they are read back, or the failure at the first key that has none. -/
def ofRecords (p : Partitioning) (key : α → Key) (putAside : α → α) (records : List α) :
    Except EvalFault (Buckets α) :=
  match p.fault? with
  | some stop => .error stop
  | none => records.mapM fun record => do .ok (← p.bucketOf (key record), putAside record)

/-- The records of a bucket. -/
def bucket (buckets : Buckets α) (number : Nat) : List α :=
  (buckets.filter fun (there, _) => there == number).map (·.2)

end Buckets

end TablePipeline
