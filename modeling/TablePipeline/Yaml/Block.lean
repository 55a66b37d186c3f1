import TablePipeline.Datum.Show
import TablePipeline.Yaml.Scalar

/-!
Data as YAML in block form. Every item of a list and every field of a record has a line of its own;
a list in a field is not indented further than the field. Empty lists and records are written in
brackets. Fields keep their order; a name that is empty, long or of several lines stands behind a
question mark, and its datum on a line of its own.
-/
namespace TablePipeline.Yaml

/-- A floating-point number: always with a point, and with points before the words. -/
def floatText (x : Binary64) : String :=
  match x with
  | .nan _ => ".nan"
  | .infinite negative => if negative then "-.inf" else ".inf"
  | x =>
    let s := x.text
    if s.toList.contains 'e' && !s.toList.contains '.' then
      String.intercalate ".0e" (s.splitOn "e")
    else s

/-- The text of a datum that has no parts, and whether it stands for a text. -/
def scalarOf (v : Value) : String × Bool :=
  match v with
  | .null => ("null", false)
  | .bool b => (if b then "true" else "false", false)
  | .float x => (floatText x, false)
  | .text s => (s, true)
  | v => (v.display, false)

/-- Write a datum without parts after a blank at a column. -/
def writeScalar (indent column : Nat) (v : Value) : List Char :=
  match scalarOf v with
  | (s, true) => ' ' :: writeText false (indent + 2) (column + 1) s
  | (s, false) => ' ' :: writeRuns true (indent + 2) false (column + 1) (runsOf s.toList)

/-- The most characters of a name that is followed by its datum on the same line. -/
def longestKey : Nat := 122

/-- Whether a name of a field is followed by its datum on the same line. -/
def isSimpleKey (name : String) : Bool :=
  name != "" && name.length ≤ longestKey && !name.toList.any isBreak

/-- Lines that start at an indent, without the blanks before the first. -/
def joinLines (indent : Nat) (entries : List (List Char)) : List Char :=
  (newLine indent).intercalate entries

mutual

/-- Write a datum behind the dash of an item at an indent. -/
def afterDash (indent : Nat) : Value → List Char
  | .list items =>
    if items.isEmpty then " []".toList
    else ' ' :: joinLines (indent + 2) (itemLines (indent + 2) items)
  | .tuple items =>
    if items.isEmpty then " []".toList
    else ' ' :: joinLines (indent + 2) (itemLines (indent + 2) items)
  | .record fields =>
    if fields.isEmpty then " \x7b\x7d".toList
    else ' ' :: joinLines (indent + 2) (fieldLines (indent + 2) fields)
  | v => writeScalar indent (indent + 1) v

/-- Write a datum behind the colon of a field at an indent, from a column on. -/
def afterColon (indent column : Nat) : Value → List Char
  | .list items =>
    if items.isEmpty then " []".toList
    else newLine indent ++ joinLines indent (itemLines indent items)
  | .tuple items =>
    if items.isEmpty then " []".toList
    else newLine indent ++ joinLines indent (itemLines indent items)
  | .record fields =>
    if fields.isEmpty then " \x7b\x7d".toList
    else newLine (indent + 2) ++ joinLines (indent + 2) (fieldLines (indent + 2) fields)
  | v => writeScalar indent column v

/-- The entries of a list at an indent. -/
def itemLines (indent : Nat) : List Value → List (List Char)
  | [] => []
  | v :: rest => ('-' :: afterDash indent v) :: itemLines indent rest

/-- The entries of a record at an indent. -/
def fieldLines (indent : Nat) : List (String × Value) → List (List Char)
  | [] => []
  | (name, v) :: rest =>
    let key := writeText true (indent + 2) indent name ++ [':']
    let field :=
      if isSimpleKey name then key ++ afterColon indent (indent + key.length) v
      else '?' :: writeScalar indent (indent + 1) (.text name) ++ newLine indent ++
        ':' :: afterDash indent v
    field :: fieldLines indent rest

end

mutual

/-- The first part of a datum that has no form in a document. -/
def unwritable? {φ : Type} : Datum φ → Option (Datum φ)
  | .list items | .tuple items => unwritableAmong? items
  | .record fields => unwritableField? fields
  | .duration d => some (.duration d)
  | .path s => some (.path s)
  | .func f => some (.func f)
  | _ => none

def unwritableAmong? {φ : Type} : List (Datum φ) → Option (Datum φ)
  | [] => none
  | d :: rest =>
    match unwritable? d with
    | some part => some part
    | none => unwritableAmong? rest

def unwritableField? {φ : Type} : List (String × Datum φ) → Option (Datum φ)
  | [] => none
  | (_, d) :: rest =>
    match unwritable? d with
    | some part => some part
    | none => unwritableField? rest

end

/-- The fields of a record as a document. -/
def document (v : Value) : String :=
  match v with
  | .record fields =>
    if fields.isEmpty then "\x7b\x7d\n"
    else String.ofList (joinLines 0 (fieldLines 0 fields) ++ ['\n'])
  | v => String.ofList ((afterDash 0 v).drop 1 ++ ['\n'])

/-- A datum as a document, if all its parts have a form in one. -/
def documentOf {φ : Type} [FunctionText φ] (d : Datum φ) : Except EvalFault String :=
  match unwritable? d with
  | some part => .error (.notRepresentable part.literal)
  | none => .ok (document (d.toValue?.getD .null))

end TablePipeline.Yaml
