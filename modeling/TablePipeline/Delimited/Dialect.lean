import TablePipeline.Settings

/-!
Dialects of delimited text: which characters separate fields, quote them, escape others and end a
row. A dialect is built from named settings; the first setting that is wrong is reported.
-/
namespace TablePipeline

/-- Which fields are quoted. -/
inductive Quoting where
  /-- Those that need it. -/
  | minimal
  | all
  /-- Those that are no numbers; unquoted fields are read as numbers. -/
  | nonNumeric
  | none
  deriving DecidableEq, Repr

structure Dialect where
  delimiter : Char := ','
  quote? : Option Char := some '"'
  escape? : Option Char := none
  /-- Whether a quote inside a quoted field is written twice. -/
  doubled : Bool := true
  /-- Whether blanks after a delimiter are skipped. -/
  skipBlanks : Bool := false
  terminator : String := "\r\n"
  quoting : Quoting := .minimal
  /-- Whether malformed text is a failure. -/
  strict : Bool := false
  deriving DecidableEq

namespace Dialect

def settingNames : List String :=
  ["dialect", "delimiter", "doublequote", "escapechar", "lineterminator", "quotechar", "quoting",
    "skipinitialspace", "strict"]

/-- The dialects that have names. -/
def named? : String → Option Dialect
  | "excel" => some {}
  | "excel-tab" => some { delimiter := '\t' }
  | "unix" => some { terminator := "\n", quoting := .all }
  | _ => none

def characterOf (name : String) (usual : Char) : Option Arg → Except DialectFault Char
  | none => .ok usual
  | some (.text s) =>
    match s.toList with
    | [c] => .ok c
    | _ => .error (.notOneCharacter name)
  | some arg => .error (.notText name arg.qualifiedKind)

def optionalCharacterOf (name : String) (usual : Option Char) :
    Option Arg → Except DialectFault (Option Char)
  | none => .ok usual
  | some .null => .ok none
  | some (.text s) =>
    match s.toList with
    | [c] => .ok (some c)
    | _ => .error (.notOneCharacter name)
  | some arg => .error (.notTextOrNone name arg.qualifiedKind)

def terminatorOf (usual : String) : Option Arg → Except DialectFault (Option String)
  | none => .ok (some usual)
  | some .null => .ok none
  | some (.text s) => .ok (some s)
  | some _ => .error .terminatorNotText

/-- The number of a quoting rule, which need not name one. -/
def quotingNumber (usual : Quoting) : Option Arg → Except DialectFault Int
  | none =>
    .ok (match usual with
      | .minimal => 0
      | .all => 1
      | .nonNumeric => 2
      | .none => 3)
  | some (.int i) =>
    if -2147483648 ≤ i && i ≤ 2147483647 then .ok i else .error .quotingTooLarge
  | some _ => .error .quotingNotInteger

def quotingOf : Int → Except DialectFault Quoting
  | 0 => .ok .minimal
  | 1 => .ok .all
  | 2 => .ok .nonNumeric
  | 3 => .ok .none
  | _ => .error .unknownQuoting

def flagOf (usual : Bool) : Option Arg → Bool
  | none => usual
  | some arg => arg.truth

/-- Whether settings leave the quoting rule open: they name none, and in place of a dialect's name
there is something that has none. -/
def leavesQuotingOpen (settings : Settings) : Bool :=
  (settings.lookup "quoting").isNone &&
    (match settings.lookup "dialect" with
    | none | some (.text _) => false
    | some _ => true)

/-- The dialect that settings describe, on top of the named one if a name is given. Without a quote
mark nothing is quoted where the quoting rule is open. -/
def ofSettings (settings : Settings) : Except DialectFault Dialect := do
  match settings.find? fun (name, _) => !settingNames.contains name with
  | some (name, _) => throw (.unknownSetting name)
  | none => pure ()
  let base : Dialect ←
    match settings.lookup "dialect" with
    | some (.text name) =>
      match named? name with
      | some d => pure d
      | none => throw .unknownDialect
    | _ => pure {}
  let delimiter ← characterOf "delimiter" base.delimiter (settings.lookup "delimiter")
  let doubled := flagOf base.doubled (settings.lookup "doublequote")
  let escape? ← optionalCharacterOf "escapechar" base.escape? (settings.lookup "escapechar")
  let terminator ← terminatorOf base.terminator (settings.lookup "lineterminator")
  let quote? ← optionalCharacterOf "quotechar" base.quote? (settings.lookup "quotechar")
  let number ← quotingNumber base.quoting (settings.lookup "quoting")
  let skipBlanks := flagOf base.skipBlanks (settings.lookup "skipinitialspace")
  let strict := flagOf base.strict (settings.lookup "strict")
  let quoting ← quotingOf number
  let quoting := if quote?.isNone && leavesQuotingOpen settings then .none else quoting
  if quoting != .none && quote?.isNone then throw .noQuoteMark
  match terminator with
  | none => throw .noTerminator
  | some terminator =>
    pure { delimiter, quote?, escape?, doubled, skipBlanks, terminator, quoting, strict }

end Dialect

end TablePipeline
