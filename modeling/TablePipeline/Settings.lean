import TablePipeline.Datum.Key
import TablePipeline.Func.Basic

/-!
Named settings as callers pass them, and what calls make of them. A call takes some settings by
name; of those that it refuses the first one is reported. The settings of a file stand in an
argument of their own, which may be a record, a list of pairs, or nothing that has names at all.
-/
namespace TablePipeline

/-- Settings under their names. -/
abbrev Settings := List (String × Arg)

namespace Settings

/-- The settings whose names are not among the given ones. -/
def without (settings : Settings) (names : List String) : Settings :=
  settings.filter fun (name, _) => !names.contains name

/-- A setting, or the usual one where it is not named. -/
def get (settings : Settings) (name : String) (usual : Arg) : Arg :=
  (settings.lookup name).getD usual

end Settings

/-- The arguments of a call. -/
structure Signature where
  call : String
  /-- The arguments that are given by their places, and so cannot be given by name again. -/
  placed : List String
  named : List String

/-- Fail on the first setting that the call refuses. -/
def Signature.check (s : Signature) (settings : Settings) : Except EvalFault Unit :=
  settings.forM fun (name, _) =>
    if s.placed.contains name then .error (.call (.given s.call name))
    else if s.named.contains name then .ok ()
    else .error (.call (.unexpected s.call name))

/-- Fail on a setting that stands in a list of names. -/
def Settings.refuse (settings : Settings) (names : List String) (fault : String → CallFault) :
    Except EvalFault Unit :=
  match settings.find? fun (name, _) => names.contains name with
  | some (name, _) => .error (.call (fault name))
  | none => .ok ()

/-- The settings of a file. -/
inductive FileSettings where
  | named (settings : Settings)
  /-- Some names are no texts; the settings under texts are kept. -/
  | mixed (settings : Settings)
  /-- Something without names. -/
  | other (arg : Arg)

instance : Inhabited FileSettings := ⟨.named []⟩

namespace FileSettings

/-- The settings in an argument that is taken as it is. -/
def ofArg : Arg → FileSettings
  | .record fields => named fields
  | arg => other arg

/-- The settings of a file that stand among others. -/
def among (settings : Settings) : FileSettings :=
  match settings.lookup "options" with
  | some arg => ofArg arg
  | none => named []

/-- A pair in a list of pairs: its name and its setting. -/
def entryOf (item : Arg) (place : Nat) : Except EvalFault (Arg × Arg) :=
  match item.elements with
  | .error _ => .error (.call (.entryForm place))
  | .ok [name, setting] => do
    name.requireKey
    .ok (name, setting)
  | .ok parts => .error (.call (.entryLength place parts.length))

/-- Put a setting in place of the one of its name, or behind all others. -/
def put (settings : Settings) (name : String) (setting : Arg) : Settings :=
  if (settings.lookup name).isSome then
    settings.map fun (there, old) => (there, if there == name then setting else old)
  else settings ++ [(name, setting)]

/-- The settings that pairs make. -/
def ofPairs (pairs : List (Arg × Arg)) : FileSettings :=
  let texts := pairs.foldl (fun settings (name, setting) =>
    match name with
    | .text name => put settings name setting
    | _ => settings) []
  if pairs.all fun (name, _) => name.text?.isSome then named texts else mixed texts

/-- A copy of the settings in an argument: a record or a list of pairs. Whatever counts as false
stands for no settings. -/
def copied (arg : Arg) : Except EvalFault FileSettings :=
  if !arg.truth then .ok (named [])
  else
    match arg with
    | .record fields => .ok (named fields)
    | arg => do
      .ok (ofPairs (← (← arg.elements).zipIdx.mapM fun (item, place) => entryOf item place))

/-- A setting, or nothing where it is not named. -/
def get (settings : FileSettings) (name : String) : Except EvalFault Arg :=
  match settings with
  | named settings | mixed settings => .ok (settings.get name .null)
  | other arg => .error (.noPart arg.qualifiedKind "get")

/-- The settings as those of a call, whose names must all be texts. -/
def forCall (settings : FileSettings) (call : String) : Except EvalFault Settings :=
  match settings with
  | named settings => .ok settings
  | mixed _ => .error (.call .namesNotText)
  | other arg => .error (.call (.notSettings call arg.qualifiedKind))

end FileSettings

end TablePipeline
