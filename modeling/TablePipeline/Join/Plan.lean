import TablePipeline.Datum.Arithmetic
import TablePipeline.Datum.Key
import TablePipeline.Group.Plan
import TablePipeline.Source

/-!
Plans of joins. A plan says, for each of the two sides, how its rows are made, what their keys are
and which columns they bring along, and how the columns of the output are picked from those of both
sides. One side is built into an index, the other one probes it; which one that is never changes the
columns.
-/
namespace TablePipeline

inductive JoinKind where
  | inner
  | left
  | right
  /-- The nearest row at the probe's value or after it. -/
  | forward
  /-- The nearest row at the probe's value or before it. -/
  | backward
  deriving DecidableEq, Repr

namespace JoinKind

def name : JoinKind → String
  | inner => "inner"
  | left => "left"
  | right => "right"
  | forward => "asof_forward"
  | backward => "asof_backward"

def all : List JoinKind := [inner, left, right, forward, backward]

def ofName? (name : String) : Option JoinKind := all.find? fun kind => kind.name == name

/-- Whether rows are matched with the nearest one in the rolling column. -/
def isRolling : JoinKind → Bool
  | forward | backward => true
  | _ => false

/-- A right join is planned as a left join with the sides exchanged. -/
def planned : JoinKind → JoinKind
  | right => left
  | kind => kind

end JoinKind

structure JoinSide where
  source : Source
  transform : RowTransform
  /-- The slots of the keys with their collations. -/
  keys : List (Nat × Option Func)
  /-- The slots of the columns that are brought along, with their formatters. -/
  carry : List (Nat × Option Func)
  /-- The slot of the rolling column. -/
  roll? : Option Nat
  batchSize : Nat

/-- What a row brings into a join: its key, the value of its rolling column, and its columns. -/
structure JoinRecord where
  key : Key
  roll : Value
  values : Row

/-- The record as it is read back after it has been put aside. -/
def JoinRecord.putAside (record : JoinRecord) : JoinRecord where
  key := Datum.forgetItems true record.key
  roll := record.roll.forget true
  values := Datum.forgetItems true record.values

namespace JoinSide

/-- The value in a slot after a function, if there is one. -/
def through (row : Row) (part : Nat × Option Func) : Except Fault Value := do
  let v ← row.cell part.1
  match part.2 with
  | some f => f.apply [v]
  | none => .ok v

/-- The record of a row of all slots. -/
def record (s : JoinSide) (row : Row) : Except Fault JoinRecord := do
  let key ← s.keys.mapM (through row)
  let roll ←
    match s.roll? with
    | some slot => row.cell slot
    | none => .ok .null
  .ok { key, roll, values := ← s.carry.mapM (through row) }

/-- The record of a row of the file, unless a filter rejects the row. -/
def recordOf (s : JoinSide) (values : Row) : Except Fault (List JoinRecord) := do
  match ← s.transform.run values with
  | some row => .ok [← s.record row]
  | none => .ok []

def withoutFormats (s : JoinSide) : JoinSide :=
  { s with carry := s.carry.map fun (slot, _) => (slot, none) }

def describe (s : JoinSide) : Arg :=
  .record [
    ("source", .text s.source.uri),
    ("keys", GroupPlan.numbersValue (s.keys.map (·.1))),
    ("carry", GroupPlan.numbersValue (s.carry.map (·.1))),
    ("roll", match s.roll? with | some slot => .int slot | none => .null),
    ("steps", GroupPlan.textsValue s.transform.describe)]

end JoinSide

structure JoinPlan where
  kind : JoinKind
  a : JoinSide
  b : JoinSide
  firstIsBuilt : Bool
  /-- The largest gap between the rolling values of matched rows. -/
  limit? : Option Value
  dropUnmatched : Arg
  /-- The places of the output columns among those of the first and then the second side. -/
  writeIndex : List Nat
  names : List Value

namespace JoinPlan

def build (p : JoinPlan) : JoinSide := if p.firstIsBuilt then p.a else p.b

def probe (p : JoinPlan) : JoinSide := if p.firstIsBuilt then p.b else p.a

/-- Whether a probe row without a match is put out with missing values for the other side. -/
def keepsUnmatched (p : JoinPlan) : Bool :=
  p.kind == .left || (p.kind.isRolling && !p.dropUnmatched.truth)

/-- The output row of a probe row and a row of the index, or missing values in place of one. -/
def assemble (p : JoinPlan) (probed : Row) (built : Option Row) : Except Fault Row :=
  let built := built.getD (p.build.carry.map fun _ => .null)
  Row.cells (if p.firstIsBuilt then built ++ probed else probed ++ built) p.writeIndex

/-- Whether two rolling values are near enough. -/
def isNear (p : JoinPlan) (probed built : Value) : Except EvalFault Bool :=
  match p.limit? with
  | none => .ok true
  | some limit => do
    let gap ← if p.kind == .forward then Datum.sub built probed else Datum.sub probed built
    Datum.related .le gap limit

/-- A limit as a plan shows it: a length of time as its text. -/
def shownLimit : Option Value → Arg
  | none => .null
  | some (.duration d) => .text d.text
  | some v => Datum.ofValue v

/-- The plan as a record. -/
def describe (p : JoinPlan) : Arg :=
  .record [
    ("kind", .text p.kind.name),
    ("build_side", .text (if p.firstIsBuilt then "a" else "b")),
    ("limit", shownLimit p.limit?),
    ("drop_unmatched", p.dropUnmatched),
    ("write_index", GroupPlan.numbersValue p.writeIndex),
    ("a", p.a.describe),
    ("b", p.b.describe)]

end JoinPlan

end TablePipeline
