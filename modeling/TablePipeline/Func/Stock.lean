import TablePipeline.Datum.Key
import TablePipeline.Func.Aggregate
import TablePipeline.Number.Numeral
import TablePipeline.Text.Case

/-!
A stock of ready-made functions, described by data: what they do, and how they are named. They check
the number and the types of their arguments.
-/
namespace TablePipeline

/-- A failure that a stock function raises. -/
inductive Complaint where
  | plain (kind : FaultKind) (message : String)
  | coded (blame : Blame) (message : String) (hint : Option String)

def Complaint.fault : Complaint → Fault
  | plain kind message => .eval (.raised kind message)
  | coded blame message hint => .user blame message hint

/-- The comparisons with a fixed value. -/
inductive Test where
  | eq
  | ne
  | rel (r : Relation)

def Test.run (t : Test) (a k : Value) : Except EvalFault Bool :=
  match t with
  | .eq => .ok (Datum.equal a k)
  | .ne => .ok !(Datum.equal a k)
  | .rel r => Datum.related r a k

inductive Stock where
  | identity
  | upper
  | lower
  | len
  | reverse
  | firstChar
  | suffix (tail : Value)
  | concat (separator : String)
  | add
  | sub
  | mul (k : Value)
  | mod (k : Value)
  | half
  | const (v : Value)
  | nargs
  | str
  | wrap
  | digitsOrText
  | blankToNone
  | default (v : Value)
  | list
  | tuple
  | isNone
  | notNone
  | test (t : Test) (k : Value)
  | lt2
  | eq2
  | raise (complaint : Complaint)
  | raiseIf (v : Value) (complaint : Complaint)
  | listLen
  | joinStr (separator : String)
  | collect
  | picky (most : Int)
  | aggregate (f : Func)

namespace Stock

def name : Stock → String
  | identity => "identity"
  | upper => "upper"
  | lower => "lower"
  | len => "len"
  | reverse => "reverse"
  | firstChar => "first_char"
  | suffix _ => "suffix"
  | concat _ => "concat"
  | add => "add"
  | sub => "sub"
  | mul _ => "mul"
  | mod _ => "mod"
  | half => "half"
  | const _ => "const"
  | nargs => "nargs"
  | str => "str"
  | wrap => "wrap"
  | digitsOrText => "digits_or_text"
  | blankToNone => "blank_to_none"
  | default _ => "default"
  | list => "list"
  | tuple => "tuple"
  | isNone => "is_none"
  | notNone => "not_none"
  | test .eq _ => "eq"
  | test .ne _ => "ne"
  | test (.rel .lt) _ => "lt"
  | test (.rel .le) _ => "le"
  | test (.rel .gt) _ => "gt"
  | test (.rel .ge) _ => "ge"
  | lt2 => "lt2"
  | eq2 => "eq2"
  | raise _ => "raise"
  | raiseIf .. => "raise_if"
  | listLen => "list_len"
  | joinStr _ => "join_str"
  | collect => "collect"
  | picky _ => "picky"
  | aggregate f => f.label

/-- The number of arguments, where it is fixed. -/
def arity? : Stock → Option Nat
  | concat _ | add | const _ | nargs | list | tuple | raise _ | aggregate _ => none
  | sub | lt2 | eq2 => some 2
  | _ => some 1

/-- The texts among the arguments, or a failure at the first that is none. -/
def wantTexts (s : Stock) (args : List Value) : Except EvalFault (List String) :=
  args.mapM fun v =>
    match v with
    | .text t => .ok t
    | v => .error (.wrongType s.name "str" v.kind)

/-- Fail on an argument that is not a number. -/
def wantNumber (s : Stock) (v : Value) : Except EvalFault Unit :=
  match v with
  | .int _ | .float _ => .ok ()
  | v => .error (.wrongType s.name "number" v.kind)

def wantNumbers (s : Stock) (args : List Value) : Except EvalFault Unit := args.forM s.wantNumber

def onText (s : Stock) (args : List Value) (f : String → Except EvalFault Value) :
    Except EvalFault Value := do
  match ← s.wantTexts args with
  | [t] => f t
  | _ => .ok .null

def withNumber (op : Number → Number → Except EvalFault Number) (sign : String) (a k : Value) :
    Except EvalFault Value := Datum.arithmetic sign op a k

def reversed (s : String) : String := String.ofList s.toList.reverse

/-- The number that a text of digits writes, or the text itself. -/
def digitsNumber (t : String) : Except EvalFault Value :=
  if !t.isEmpty && t.toList.all Text.isAsciiDigit then
    match Numeral.readInt t with
    | .value i => .ok (.int i)
    | .tooLong digits => .error (.tooManyDigits digits)
    | .malformed => .ok (.text t)
  else .ok (.text t)

def length (v : Value) : Except EvalFault Nat :=
  match v with
  | .list items | .tuple items => .ok items.length
  | .text t => .ok t.length
  | .record fields => .ok fields.length
  | v => .error (.noLength v.qualifiedKind)

/-- What a stock function does with arguments of the right number. -/
def compute (s : Stock) (args : List Value) : Except EvalFault Value :=
  let a := args.headD .null
  let b := args.getD 1 .null
  match s with
  | identity | collect => .ok a
  | upper => s.onText args fun t => .ok (.text (Text.upper t))
  | lower => s.onText args fun t => .ok (.text (Text.lower t))
  | len => s.onText args fun t => .ok (.int t.length)
  | reverse => s.onText args fun t => .ok (.text (reversed t))
  | firstChar => s.onText args fun t => .ok (.text (String.ofList (t.toList.take 1)))
  | suffix tail => s.onText args fun t =>
    match tail with
    | .text more => .ok (.text (t ++ more))
    | v => .error (.noConcatenation "str" v.qualifiedKind)
  | concat separator => do .ok (.text (separator.intercalate (← s.wantTexts args)))
  | add => args.foldlM (fun sum v => do s.wantNumber v; Datum.add sum v) (.int 0)
  | sub => do
    s.wantNumbers args
    withNumber Number.sub "-" a b
  | mul k => do
    s.wantNumbers args
    Datum.mul a k
  | mod k => do
    s.wantNumbers args
    withNumber Number.floorMod "%" a k
  | half => do
    s.wantNumbers args
    match a.number? with
    | some n => .ok (Datum.ofNumber (← n.divCount 2))
    | none => .ok .null
  | const v => .ok v
  | nargs => .ok (.int args.length)
  | str => do .ok (.text (← a.written))
  | wrap => do .ok (.text ("<" ++ (← a.written) ++ ">"))
  | digitsOrText => s.onText args digitsNumber
  | blankToNone => .ok (if Datum.equal a (.text "") then .null else a)
  | default v => .ok (if a.isNull then v else a)
  | list => .ok (.list args)
  | tuple => .ok (.tuple args)
  | isNone => .ok (.bool a.isNull)
  | notNone => .ok (.bool !a.isNull)
  | test t k => do .ok (.bool (← t.run a k))
  | lt2 => do .ok (.bool (← Datum.less a b))
  | eq2 => .ok (.bool (Datum.equal a b))
  | listLen => do .ok (.int (← length a))
  | joinStr separator => do
    .ok (.text (separator.intercalate (← (← a.elements).mapM Datum.written)))
  | picky most => do
    if most < (Int.ofNat (← length a)) then throw (.raised .value "too many")
    if a.truth then a.itemAt 0 else .ok .null
  | raise _ | raiseIf .. | aggregate _ => .ok .null

def apply (s : Stock) (args : List Value) : Except Fault Value :=
  match s with
  | aggregate f => f.apply args
  | _ =>
    match s.arity? with
    | some n =>
      if args.length != n then .error (.eval (.wrongCount s.name n args.length)) else run args
    | none => run args
where
  /-- Apply the function to arguments of the right number. -/
  run (args : List Value) : Except Fault Value :=
    match s with
    | raise complaint => .error complaint.fault
    | raiseIf v complaint =>
      let a := args.headD .null
      if Datum.equal a v then .error complaint.fault else .ok a
    | _ => (s.compute args).mapError Fault.eval

end Stock

/-- A stock function under a name of its own, or without one. -/
def Func.ofStock (s : Stock) (name : Option String) (nameless : Bool) : Func where
  name? := if nameless then none else some (name.getD s.name)
  kind := if nameless then "FnObject" else "Fn"
  literal := "<fn " ++ s.name ++ ">"
  apply := s.apply

end TablePipeline
