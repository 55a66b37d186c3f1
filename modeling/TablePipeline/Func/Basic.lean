import TablePipeline.Datum.Show
import TablePipeline.Fault.Basic

/-!
Functions of the caller: parsers, operations, predicates, formatters, collations and aggregates. A
function takes the values of some cells and gives a value or fails. It may have a name, under which
plans and columns show it.
-/
namespace TablePipeline

structure Func where
  /-- The name it was declared with, if any. -/
  name? : Option String
  /-- What the type of the function is called. -/
  kind : String
  /-- How it is shown inside other data. -/
  literal : String
  apply : List Value → Except Fault Value

instance : FunctionText Func := ⟨Func.literal, Func.kind⟩

/-- What a caller passes to a builder: data in which functions may stand. -/
abbrev Arg := Datum Func

namespace Func

/-- The name that plans show: the declared one, or the type's where that is missing or empty. -/
def label (f : Func) : String :=
  match f.name? with
  | some name => if name == "" then f.kind else name
  | none => f.kind

/-- An argument as a function. What is no function is named after its type and cannot be called. -/
def ofArg (arg : Arg) : Func :=
  match arg with
  | .func f => f
  | d =>
    { name? := none, kind := Datum.kind d, literal := ""
      apply := fun _ => .error (.eval (.notCallable (Datum.qualifiedKind d))) }

/-- A named function of one value. -/
def unary (name : String) (apply : Value → Except Fault Value) : Func where
  name? := some name
  kind := "function"
  literal := "<function " ++ name ++ ">"
  apply
    | [v] => apply v
    | [] => .error (.eval (.call (.missing (name ++ "()") "values")))
    | vs => .error (.eval (.call (.tooMany (name ++ "()") vs.length)))

end Func

namespace Datum

variable {φ : Type} [FunctionText φ]

/-- The items that a datum yields one by one. -/
def elements : Datum φ → Except EvalFault (List (Datum φ))
  | list items | tuple items => .ok items
  | text s => .ok (s.toList.map fun c => text (String.singleton c))
  | record fields => .ok (fields.map fun (name, _) => text name)
  | d => .error (.notIterable d.qualifiedKind)

/-- The item at a place. A record has items under its names only. -/
def itemAt (place : Nat) : Datum φ → Except EvalFault (Datum φ)
  | list items | tuple items =>
    match items[place]? with
    | some d => .ok d
    | none => .error .indexOutOfRange
  | text s =>
    match s.toList[place]? with
    | some c => .ok (text (String.singleton c))
    | none => .error .indexOutOfRange
  | record _ => .error (.missingKey (toString place))
  | d => .error (.notSubscriptable d.qualifiedKind)

end Datum

end TablePipeline
