import TablePipeline.Datum.Key
import TablePipeline.Func.Basic
import TablePipeline.Path

/-!
Names of columns, and the forms in which callers pass names, lists and paths. A name is mostly a
text, but the header of a file may give any value as a name.
-/
namespace TablePipeline

/-- A list or a tuple as it is; anything else as a list of one. -/
def Datum.asList {φ : Type} (d : Datum φ) : List (Datum φ) := d.items?.getD [d]

namespace Names

/-- Names for the columns of a file without a header. -/
def numbered (count : Nat) : List String :=
  (List.range count).map fun i => "Col_" ++ toString (i + 1)

/-- Names for as many columns as an argument says. -/
def numberedFor (count : Arg) : Except EvalFault (List String) :=
  match count with
  | .int i => .ok (numbered i.toNat)
  | .bool b => .ok (numbered b.toNat)
  | .float _ => .error (.notInteger count.qualifiedKind)
  | .text _ | .list _ | .tuple _ => .error (.noConcatenation count.qualifiedKind "int")
  | _ => .error (.noOperation "+" count.qualifiedKind "int")

/-- The items that occur more than once, each of them once, in order of their second places. -/
def repeats {φ : Type} (items : List (Datum φ)) : List (Datum φ) :=
  let step (state : List (Datum φ) × List (Datum φ)) (d : Datum φ) :=
    let (seen, again) := state
    (d :: seen,
      if seen.any (Datum.isMatch · d) && !again.any (Datum.isMatch · d) then again ++ [d]
      else again)
  (items.foldl step ([], [])).2

/-- Names that are all different, as they were given. -/
def distinct {φ : Type} [FunctionText φ] (names : List (Datum φ)) :
    Except Fault (List (Datum φ)) := do
  (names.forM Datum.requireKey).mapError Fault.eval
  let again := repeats names
  if again.isEmpty then .ok names
  else .error (.schema (.duplicateNames (Datum.list again).literal))

/-- Whether a name is among others. -/
def contain (names : List Value) (name : Value) : Bool := names.any (·.isMatch name)

/-- Names that are to be listed side by side, which only texts can be. -/
def texts (names : List Value) : Except EvalFault (List String) :=
  names.zipIdx.mapM fun (name, place) =>
    match name with
    | .text s => .ok s
    | v => .error (.itemNotText place v.qualifiedKind)

/-- A mistake that is reported together with the names that there are. -/
def blame (mistake : List String → SchemaFault) (names : List Value) : Fault :=
  match texts names with
  | .ok shown => .schema (mistake shown)
  | .error stop => .eval stop

/-- The places of chosen names among those that there are. -/
def places (scope : SelectScope) (names select : List Value) : Except Fault (List Nat) :=
  let missing := select.filter fun name => !contain names name
  if missing.isEmpty then .ok (select.map fun name => names.findIdx (·.isMatch name))
  else .error (blame (.selectUnknown scope (Datum.list missing).literal) names)

end Names

/-- The text of a path argument: a text or a path that is not empty. -/
def Arg.pathText (role : PathRole) (arg : Arg) : Except Fault String :=
  match arg with
  | .text s => if s == "" then .error (.schema (.pathKind role arg.kind)) else .ok s
  | .path s => if s == "" then .error (.schema (.pathKind role "str")) else .ok s
  | _ => .error (.schema (.pathKind role arg.kind))

/-- What kind of file a path argument leads to, as far as its name tells. -/
def Arg.fileKind (arg : Arg) : Except EvalFault (Option String) :=
  match arg with
  | .text s | .path s => .ok (if Path.looksDelimited s then some "csv" else none)
  | _ => .error (.notPath arg.qualifiedKind)

/-- Fail on an argument that is no path of a folder; nothing stands for the usual one. -/
def Arg.requireFolder (arg : Arg) : Except EvalFault Unit :=
  match arg with
  | .null => .ok ()
  | .text s | .path s => if s.toList.contains '\x00' then .error (.file .nullInPath) else .ok ()
  | _ => .error (.notPath arg.qualifiedKind)

end TablePipeline
