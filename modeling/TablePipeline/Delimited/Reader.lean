import TablePipeline.Delimited.Dialect
import TablePipeline.Feed
import TablePipeline.Number.Numeral

/-!
Reading delimited text. The text is cut into lines; a machine reads a row from one or more of them,
character by character and then the end of the line. A quoted field may hold line ends, so a row is
complete only when a line ends outside quotes.
-/
namespace TablePipeline.Delimited

def isLineEnd (c : Char) : Bool := c == '\n' || c == '\r'

/-- Cut a text after every line feed, carriage return, or pair of the two. -/
def lines (cs : List Char) : List (List Char) :=
  let body := cs.takeWhile fun c => !isLineEnd c
  match _h : cs.drop body.length with
  | [] => if body.isEmpty then [] else [body]
  | c :: rest =>
    if c == '\r' && rest.head? == some '\n' then
      (body ++ ['\r', '\n']) :: lines (rest.drop 1)
    else (body ++ [c]) :: lines rest
  termination_by cs.length
  decreasing_by
    all_goals
      have := congrArg List.length _h
      simp only [List.length_drop, List.length_cons] at this ⊢
      omega

/-- Whether a line is known to be complete before the text after it has been read. -/
def isComplete (line : List Char) : Bool := line.getLast? == some '\n'

/-- The lines of a text whose rest could not be read: a last line without an end is lost, and so is
one that ends in a carriage return, after which a line feed might follow. -/
def completeLines (cs : List Char) : List (List Char) :=
  let all := lines cs
  match all.getLast? with
  | some line => if isComplete line then all else all.dropLast
  | none => []

/-- Where the machine is in a row. -/
inductive Mode where
  | startRow
  | startField
  | inField
  | escaped
  | afterEscapedEnd
  | inQuotes
  | escapedInQuotes
  /-- Right after a quote inside a quoted field. -/
  | afterQuote
  | lineEnd
  deriving DecidableEq, Repr

/-- The machine's state: the field it is in and the fields before it, both last one first. -/
structure Machine where
  mode : Mode := .startRow
  field : List Char := []
  size : Nat := 0
  /-- Whether the field is to be read as a number. -/
  numeric : Bool := false
  fields : List Value := []

/-- The most characters that a field may have. -/
def fieldLimit : Nat := 131072

namespace Machine

def addChar (m : Machine) (mode : Mode) (c : Char) : Except EvalFault Machine :=
  if fieldLimit ≤ m.size then .error (.delimited (.fieldTooLong fieldLimit))
  else .ok { m with mode, field := c :: m.field, size := m.size + 1 }

/-- The value of the field that has been read. -/
def fieldValue (m : Machine) : Except EvalFault Value :=
  let s := String.ofList m.field.reverse
  if m.numeric then
    match Numeral.readFloat? s with
    | some x => .ok (.float x)
    | none => .error (.notFloat s)
  else .ok (.text s)

/-- Close the field. -/
def save (m : Machine) (mode : Mode) : Except EvalFault Machine := do
  let v ← m.fieldValue
  .ok { mode, fields := v :: m.fields }

/-- What follows at the end of a line that a character or the line itself ends. -/
def ended (c : Option Char) : Mode := if c.isNone then .startRow else .lineEnd

def isEnd (c : Option Char) : Bool := c == some '\n' || c == some '\r' || c == none

/-- A character, or the end of the line (`none`), at the start of a field. -/
def atFieldStart (d : Dialect) (m : Machine) (c : Option Char) : Except EvalFault Machine :=
  if isEnd c then m.save (ended c)
  else
    match c with
    | none => .ok m
    | some x =>
      if d.quote? == c && d.quoting != .none then .ok { m with mode := .inQuotes }
      else if d.escape? == c then .ok { m with mode := .escaped }
      else if x == ' ' && d.skipBlanks then .ok { m with mode := .startField }
      else if x == d.delimiter then m.save .startField
      else { m with numeric := m.numeric || d.quoting == Quoting.nonNumeric }.addChar .inField x

/-- A character, or the end of the line, in a field without quotes. -/
def inside (d : Dialect) (m : Machine) (c : Option Char) : Except EvalFault Machine :=
  if isEnd c then m.save (ended c)
  else
    match c with
    | none => .ok m
    | some x =>
      if d.escape? == c then .ok { m with mode := .escaped }
      else if x == d.delimiter then m.save .startField
      else m.addChar m.mode x

/-- A character, or the end of the line, right after a quote inside a quoted field. -/
def afterQuote (d : Dialect) (m : Machine) (c : Option Char) : Except EvalFault Machine :=
  if c.isSome && d.quote? == c then m.addChar .inQuotes (c.getD ' ')
  else if c == some d.delimiter then m.save .startField
  else if isEnd c then m.save (ended c)
  else if d.strict then
    .error (.delimited (.textAfterQuote d.delimiter (d.quote?.getD '"')))
  else m.addChar .inField (c.getD ' ')

/-- Read one character, or the end of the line. -/
def step (d : Dialect) (m : Machine) (c : Option Char) : Except EvalFault Machine :=
  match m.mode with
  | .startRow =>
    if c.isNone then .ok m
    else if isEnd c then .ok { m with mode := .lineEnd }
    else m.atFieldStart d c
  | .startField => m.atFieldStart d c
  | .inField => m.inside d c
  | .escaped =>
    match c with
    | none => m.addChar .inField '\n'
    | some x => m.addChar (if isEnd c then .afterEscapedEnd else .inField) x
  | .afterEscapedEnd => if c.isNone then .ok m else m.inside d c
  | .inQuotes =>
    match c with
    | none => .ok m
    | some x =>
      if d.escape? == c then .ok { m with mode := .escapedInQuotes }
      else if d.quote? == c && d.quoting != .none then
        .ok { m with mode := if d.doubled then .afterQuote else .inField }
      else m.addChar .inQuotes x
  | .escapedInQuotes => m.addChar .inQuotes (c.getD '\n')
  | .afterQuote => m.afterQuote d c
  | .lineEnd => .ok (if c.isNone then { m with mode := .startRow } else m)

/-- Read a line and its end. -/
def readLine (d : Dialect) (m : Machine) (line : List Char) : Except EvalFault Machine := do
  let m ← line.foldlM (fun m c => m.step d (some c)) m
  m.step d none

def row (m : Machine) : Row := m.fields.reverse

end Machine

/-- What is left in the machine when the text ends: a row that was not complete, or nothing. -/
def lastRow (d : Dialect) (m : Machine) (fault : Option Fault) : Feed Row :=
  match fault with
  | some fault => .failed fault
  | none =>
    if m.size != 0 || m.mode == .inQuotes then
      if d.strict then .failed (.eval (.delimited .unfinished))
      else
        match m.save .startRow with
        | .ok m => ⟨[m.row], none⟩
        | .error stop => .failed (.eval stop)
    else .empty

/-- The rows of lines, after which the text ends or fails. -/
def readRows (d : Dialect) (fault : Option Fault) : Machine → List (List Char) → Feed Row
  | m, [] => lastRow d m fault
  | m, line :: rest =>
    match m.readLine d line with
    | .error stop => .failed (.eval stop)
    | .ok m =>
      if m.mode == .startRow then .cons m.row (readRows d fault {} rest)
      else readRows d fault m rest

/-- The rows of a text that may break off with a failure. -/
def read (d : Dialect) (cs : List Char) (fault : Option Fault) : Feed Row :=
  readRows d fault {} (if fault.isSome then completeLines cs else lines cs)

end TablePipeline.Delimited
