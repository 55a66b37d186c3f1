import TablePipeline.Func.Basic

/-!
Keys of groups and joins as a caller gives them: columns, each with or without a collation, a
function whose results are compared in place of the values.
-/
namespace TablePipeline

structure KeyEntry where
  collation? : Option Func
  name : String

namespace KeyEntry

/-- One key in a list of keys: a name, or a function and a name. -/
def ofItem? (item : Arg) : Option KeyEntry :=
  match item with
  | .text name => some ⟨none, name⟩
  | _ =>
    match item.items? with
    | some [.func f, .text name] => some ⟨some f, name⟩
    | _ => none

def ofItem (what : String) (item : Arg) : Except Fault KeyEntry :=
  match ofItem? item with
  | some entry => .ok entry
  | none => .error (.schema (.keyEntry what item.literal))

/-- The keys that an argument stands for: one key, or a list of keys that is not empty. A function
and a name in a tuple are one key. -/
def listOf (what : String) (keys : Arg) : Except Fault (List KeyEntry) :=
  match keys with
  | .text name => .ok [⟨none, name⟩]
  | .tuple [.func f, .text name] => .ok [⟨some f, name⟩]
  | _ =>
    match keys.items? with
    | none | some [] => .error (.schema (.keyForm what))
    | some items => items.mapM (ofItem what)

end KeyEntry

end TablePipeline
