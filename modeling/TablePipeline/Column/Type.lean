import TablePipeline.Calendar.Format
import TablePipeline.Datum.Key
import TablePipeline.Func.Basic
import TablePipeline.Number.Numeral
import TablePipeline.Text.Blank
import TablePipeline.Text.Encoding.Encode

/-!
Types of columns. A type says how the text of a cell becomes a value when a row is read and how the
value becomes text again when it is written. An empty or blank cell is a missing value.
-/
namespace TablePipeline

inductive ColumnType where
  | int
  | double
  | string
  /-- Days, written with a pattern; without one as year, month and day with dashes between. -/
  | date (pattern : Option String)
  /-- Values that are left as they are. -/
  | raw
  deriving DecidableEq, Repr

namespace ColumnType

/-- The tag that names the type. -/
def tag : ColumnType → String
  | int => "int"
  | double => "double"
  | string => "string"
  | date none => "date"
  | date (some pattern) => "date:" ++ pattern
  | raw => "raw"

def datePattern (pattern : Option String) : String := pattern.getD "%Y-%m-%d"

/-- A missing value: none at all, or a blank text. -/
def isMissing : Value → Bool
  | .null => true
  | .text s => (Text.trim s.toList).isEmpty
  | _ => false

def refuse (v : Value) (type : String) : Except EvalFault Value := do
  throw (.notCoercible (← v.writtenLiteral) type)

/-- The integer that a text writes, also as a number with a point or an exponent. -/
def integerOfText (s : String) : Except EvalFault Value :=
  let trimmed := Text.strip s
  match Numeral.readInt trimmed with
  | .value i => .ok (.int i)
  | _ =>
    match Numeral.readFloat? trimmed with
    | none => .error (.notFloat trimmed)
    | some x =>
      match x.toInt? with
      | some i => .ok (.int i)
      | none => refuse (.text s) "int"

def toInt (v : Value) : Except EvalFault Value :=
  if isMissing v then .ok .null
  else
    match v with
    | .bool b => .ok (.int (if b then 1 else 0))
    | .int i => .ok (.int i)
    | .float x =>
      match x.toInt? with
      | some i => .ok (.int i)
      | none => refuse v "int"
    | .text s => integerOfText s
    | _ => refuse v "int"

def toDouble (v : Value) : Except EvalFault Value :=
  if isMissing v then .ok .null
  else
    match v with
    | .int i =>
      match Binary64.ofInt i with
      | .infinite _ => .error .integerTooLarge
      | x => .ok (.float x)
    | .float x => .ok (.float x)
    | .text s =>
      match Numeral.readFloat? (Text.strip s) with
      | some x => .ok (.float x)
      | none => .error (.notFloat (Text.strip s))
    | _ => refuse v "double"

def toText (v : Value) : Except EvalFault Value := do
  if v.isNull then .ok .null else .ok (.text (← v.written))

def toDate (pattern : String) (v : Value) : Except EvalFault Value :=
  if isMissing v then .ok .null
  else
    match v with
    | .datetime t => .ok (.date t.date)
    | .date d => .ok (.date d)
    | v => do
      let text := Text.strip (← v.written)
      .ok (.date (← (Calendar.scanDate pattern text).mapError EvalFault.scan))

/-- The value of a cell that is read. -/
def parse : ColumnType → Value → Except EvalFault Value
  | int => toInt
  | double => toDouble
  | string => toText
  | date pattern => toDate (datePattern pattern)
  | raw => .ok

/-- A value as text, and nothing as the empty text. -/
def plain (v : Value) : Except EvalFault Value := do
  if v.isNull then .ok (.text "") else .ok (.text (← v.written))

/-- Fail on a pattern that has no bytes. -/
def requireBytes (pattern : String) : Except EvalFault Unit := do
  let _ ← (Text.Coding.utf8.encode .strict pattern.toList).mapError EvalFault.coding
  pure ()

/-- A day or a time by a pattern, which is turned into bytes first. -/
def dateText (pattern : String) : Value → Except EvalFault Value
  | .date d => do
    requireBytes pattern
    .ok (.text (Calendar.formatDate pattern d))
  | .datetime t => do
    requireBytes pattern
    .ok (.text (Calendar.formatTime pattern t))
  | v => plain v

/-- What a value becomes when it is written. -/
def format : ColumnType → Value → Except EvalFault Value
  | int | double | string => plain
  | date pattern => dateText (datePattern pattern)
  | raw => .ok

def parser (t : ColumnType) : Func := .unary "parse" fun v => (t.parse v).mapError Fault.eval

/-- The name under which plans show the formatter of the type. -/
def formatterName : ColumnType → String
  | int | double | string => "_format_plain"
  | date _ => "fmt_value"
  | raw => "_identity"

def formatter (t : ColumnType) : Func :=
  .unary t.formatterName fun v => (t.format v).mapError Fault.eval

/-- The type of a tag. A pattern of days may follow the tag of days after a colon. -/
def ofTag? (tag : String) : Option ColumnType :=
  let base := String.ofList (tag.toList.takeWhile (· != ':'))
  let rest := String.ofList ((tag.toList.dropWhile (· != ':')).drop 1)
  match base with
  | "int" => some int
  | "double" => some double
  | "string" => some string
  | "date" => some (date (if rest == "" then none else some rest))
  | "raw" => some raw
  | _ => none

def ofArg (arg : Arg) : Except Fault ColumnType :=
  match arg with
  | .text tag =>
    if tag == "" then .error (.schema (.typeTag arg.literal))
    else
      match ofTag? tag with
      | some t => .ok t
      | none => .error (.schema (.typeUnknown arg.literal))
  | _ => .error (.schema (.typeTag arg.literal))

/-- The type of the columns that a schema inference calls by a name. -/
def ofInferred : Option String → ColumnType
  | some "integer" => int
  | some "number" => double
  | some "date" => date none
  | _ => string

/-- The type of the columns that a schema inference calls by an argument. -/
def ofInferredArg (arg : Arg) : Except EvalFault ColumnType := do
  if arg.truth then arg.requireKey
  .ok (ofInferred arg.text?)

end ColumnType

end TablePipeline
