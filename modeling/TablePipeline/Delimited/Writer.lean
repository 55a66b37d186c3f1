import TablePipeline.Delimited.Dialect

/-!
Writing delimited text. A missing value is an empty field and every other one its display text. A
field is quoted when the dialect asks for it, or when it holds a character that would be misread;
a row of a single empty field is written as a pair of quotes, to tell it from a row without fields.
-/
namespace TablePipeline.Delimited

/-- Whether a character could be misread in a field without quotes. -/
def isSpecial (d : Dialect) (c : Char) : Bool :=
  c == d.delimiter || d.escape? == some c || d.quote? == some c || d.terminator.toList.contains c

/-- Whether a character has an escape in front of it rather than quotes around the field. -/
def isEscaped (d : Dialect) (c : Char) : Bool :=
  isSpecial d c &&
    (d.quoting == .none ||
      (if d.quote? == some c then !d.doubled else d.escape? == some c))

/-- A character of a field, with an escape or a second quote in front where it needs one. -/
def writeChar (d : Dialect) (c : Char) : Except EvalFault (List Char) :=
  if isEscaped d c then
    match d.escape? with
    | some e => .ok [e, c]
    | none => .error (.delimited .needsEscape)
  else if d.quoting != .none && d.quote? == some c && d.doubled then .ok [c, c]
  else .ok [c]

/-- Whether a character makes its field a quoted one. -/
def demandsQuotes (d : Dialect) (c : Char) : Bool := isSpecial d c && !isEscaped d c

def isNumeric : Value → Bool
  | .int _ | .float _ | .bool _ => true
  | _ => false

/-- Whether the dialect quotes a field whatever its text is. -/
def alwaysQuoted (d : Dialect) (v : Value) : Bool :=
  match d.quoting with
  | .all => true
  | .nonNumeric => !isNumeric v
  | _ => false

/-- The text of a value in a field. -/
def fieldText (v : Value) : Except EvalFault (List Char) := do
  if v.isNull then .ok [] else .ok (← v.written).toList

def enclosed (d : Dialect) (cs : List Char) : List Char :=
  match d.quote? with
  | some q => q :: cs ++ [q]
  | none => cs

def writeField (d : Dialect) (v : Value) : Except EvalFault (List Char) := do
  let cs ← fieldText v
  let body ← cs.mapM (writeChar d)
  .ok (if alwaysQuoted d v || cs.any (demandsQuotes d) then enclosed d body.flatten
    else body.flatten)

/-- A row and the end of its line. -/
def writeRow (d : Dialect) (row : Row) : Except EvalFault (List Char) := do
  let fields ← row.mapM (writeField d)
  let body := [d.delimiter].intercalate fields
  if !row.isEmpty && body.isEmpty then
    if d.quoting == .none then .error (.delimited .loneEmptyField)
    else .ok (enclosed d [] ++ d.terminator.toList)
  else .ok (body ++ d.terminator.toList)

end TablePipeline.Delimited
