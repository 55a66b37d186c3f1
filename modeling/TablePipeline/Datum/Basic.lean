import TablePipeline.Number.Binary64
import TablePipeline.Calendar.Date

/-!
Data: what a cell of a table holds and what a caller passes. Both are built from the same pieces;
only an argument may contain functions. So the type takes the kind of function as a parameter, and
a cell value is a datum without any.
-/
namespace TablePipeline

inductive Datum (φ : Type) where
  | null
  | bool (b : Bool)
  | int (i : Int)
  | float (x : Binary64)
  | text (s : String)
  | list (items : List (Datum φ))
  | tuple (items : List (Datum φ))
  | record (fields : List (String × Datum φ))
  | date (d : Date)
  | datetime (t : DateTime)
  | duration (d : Duration)
  | path (s : String)
  | func (f : φ)

/-- What a cell holds. -/
abbrev Value := Datum Empty

/-- A row: the values of its cells in order. -/
abbrev Row := List Value

/-- What a message says about a function. -/
class FunctionText (φ : Type) where
  /-- How the function is shown inside other data. -/
  literal : φ → String
  /-- What the type of the function is called. -/
  kind : φ → String

instance : FunctionText Empty where
  literal f := nomatch f
  kind f := nomatch f

namespace Datum

variable {φ : Type}

instance : Inhabited (Datum φ) := ⟨null⟩

def isNull : Datum φ → Bool
  | null => true
  | _ => false

/-- The name of a datum's type. -/
def kind [FunctionText φ] : Datum φ → String
  | null => "NoneType"
  | bool _ => "bool"
  | int _ => "int"
  | float _ => "float"
  | text _ => "str"
  | list _ => "list"
  | tuple _ => "tuple"
  | record _ => "dict"
  | date _ => "date"
  | datetime _ => "datetime"
  | duration _ => "timedelta"
  | path _ => "PosixPath"
  | func f => FunctionText.kind f

/-- The name of a datum's type with the name of its family in front. -/
def qualifiedKind [FunctionText φ] : Datum φ → String
  | date _ => "datetime.date"
  | datetime _ => "datetime.datetime"
  | duration _ => "datetime.timedelta"
  | d => d.kind

/-- Whether a datum counts as true: nothing, zero and whatever is empty do not. -/
def truth : Datum φ → Bool
  | null => false
  | bool b => b
  | int i => i != 0
  | float x => !x.isZero
  | text s => s != ""
  | list items | tuple items => !items.isEmpty
  | record fields => !fields.isEmpty
  | duration d => d.microseconds != 0
  | date _ | datetime _ | path _ | func _ => true

def text? : Datum φ → Option String
  | text s => some s
  | _ => none

def func? : Datum φ → Option φ
  | func f => some f
  | _ => none

/-- The items of a list or a tuple. -/
def items? : Datum φ → Option (List (Datum φ))
  | list items | tuple items => some items
  | _ => none

mutual

/-- The datum as a cell value, if it contains no function. -/
def toValue? : Datum φ → Option Value
  | null => some .null
  | bool b => some (.bool b)
  | int i => some (.int i)
  | float x => some (.float x)
  | text s => some (.text s)
  | list items => (toValues? items).map .list
  | tuple items => (toValues? items).map .tuple
  | record fields => (toValueFields? fields).map .record
  | date d => some (.date d)
  | datetime t => some (.datetime t)
  | duration d => some (.duration d)
  | path s => some (.path s)
  | func _ => none

def toValues? : List (Datum φ) → Option (List Value)
  | [] => some []
  | d :: rest => do some ((← toValue? d) :: (← toValues? rest))

def toValueFields? : List (String × Datum φ) → Option (List (String × Value))
  | [] => some []
  | (name, d) :: rest => do some ((name, ← toValue? d) :: (← toValueFields? rest))

end

mutual

/-- A cell value as a datum of any kind. -/
def ofValue : Value → Datum φ
  | null => null
  | bool b => bool b
  | int i => int i
  | float x => float x
  | text s => text s
  | list items => list (ofValues items)
  | tuple items => tuple (ofValues items)
  | record fields => record (ofValueFields fields)
  | date d => date d
  | datetime t => datetime t
  | duration d => duration d
  | path s => path s
  | func f => nomatch f

def ofValues : List Value → List (Datum φ)
  | [] => []
  | v :: rest => ofValue v :: ofValues rest

def ofValueFields : List (String × Value) → List (String × Datum φ)
  | [] => []
  | (name, v) :: rest => (name, ofValue v) :: ofValueFields rest

end

end Datum

end TablePipeline
