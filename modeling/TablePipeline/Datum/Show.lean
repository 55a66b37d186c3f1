import TablePipeline.Datum.Basic
import TablePipeline.Number.Numeral
import TablePipeline.Number.Shortest
import TablePipeline.Text.Quoted
import TablePipeline.Fault.Eval

/-!
The text of data. `literal` is the form inside other data and in messages, where texts are quoted;
`display` is the form in a cell of a file, where texts, days and times stand as they are. Both are
complete; what a computation has made is only written if its integers are not too long.
-/
namespace TablePipeline

namespace DateTime

/-- Day and time as a call with its parts; seconds and microseconds only when there are any. -/
def literal (t : DateTime) : String :=
  let parts := [t.date.year, t.date.month, t.date.day, t.hour, t.minute] ++
    (if t.microsecond != 0 then [t.second, t.microsecond]
     else if t.second != 0 then [t.second] else [])
  "datetime.datetime(" ++ ", ".intercalate (parts.map toString) ++ ")"

end DateTime

namespace Datum

variable {φ : Type} [FunctionText φ]

mutual

/-- The text of a datum inside other data. -/
def literal : Datum φ → String
  | null => "None"
  | bool b => if b then "True" else "False"
  | int i => toString i
  | float x => x.text
  | text s => Text.quoted s
  | list items => "[" ++ ", ".intercalate (literals items) ++ "]"
  | tuple items =>
    match literals items with
    | [one] => "(" ++ one ++ ",)"
    | many => "(" ++ ", ".intercalate many ++ ")"
  | record fields => "\x7b" ++ ", ".intercalate (fieldLiterals fields) ++ "\x7d"
  | date d => s!"datetime.date({d.year}, {d.month}, {d.day})"
  | datetime t => t.literal
  | duration d => Calendar.durationLiteral d
  | path s => "PosixPath(" ++ Text.quoted s ++ ")"
  | func f => FunctionText.literal f

def literals : List (Datum φ) → List String
  | [] => []
  | d :: rest => literal d :: literals rest

def fieldLiterals : List (String × Datum φ) → List String
  | [] => []
  | (name, d) :: rest => (Text.quoted name ++ ": " ++ literal d) :: fieldLiterals rest

end

/-- The text of a datum on its own. -/
def display : Datum φ → String
  | text s => s
  | date d => d.iso
  | datetime t => t.iso " "
  | duration d => d.text
  | path s => s
  | d => d.literal

/-- The least integer that is too long to be written. -/
def tooLong : Nat := Nat.pow 10 Numeral.maxDigits

mutual

/-- Whether a datum holds an integer that is too long to be written. -/
def hasLongInteger : Datum φ → Bool
  | int i => tooLong ≤ i.natAbs
  | list items | tuple items => hasLongIntegers items
  | record fields => hasLongFields fields
  | _ => false

def hasLongIntegers : List (Datum φ) → Bool
  | [] => false
  | d :: rest => hasLongInteger d || hasLongIntegers rest

def hasLongFields : List (String × Datum φ) → Bool
  | [] => false
  | (_, d) :: rest => hasLongInteger d || hasLongFields rest

end

/-- The text of a datum on its own, if it can be written. -/
def written (d : Datum φ) : Except EvalFault String :=
  if d.hasLongInteger then .error .unwritableInteger else .ok d.display

/-- The text of a datum inside other data, if it can be written. -/
def writtenLiteral (d : Datum φ) : Except EvalFault String :=
  if d.hasLongInteger then .error .unwritableInteger else .ok d.literal

end Datum

end TablePipeline
