import TablePipeline.Text.Quoted
import TablePipeline.Yaml.Resolution

/-!
Scalars of YAML. A text is written without quotes if it cannot be misread, else in single quotes,
and in double quotes with escapes if it holds characters other than printable ASCII and line feeds.
A line that has grown over 80 columns is folded at the next single space.
-/
namespace TablePipeline.Yaml

inductive Style where
  | plain
  | single
  | double
  deriving DecidableEq, Repr

def isBreak (c : Char) : Bool := ['\n', '\x85', '\u2028', '\u2029'].contains c

def isSpacing (c : Char) : Bool := isBreak c || ['\x00', ' ', '\t', '\r'].contains c

/-- Characters that cannot stand in a text without escapes. -/
def isSpecial (c : Char) : Bool := !(c == '\n' || (' ' ≤ c && c ≤ '~'))

/-- Whether the rest of a text is empty or starts with spacing. -/
def spacingFollows (cs : List Char) : Bool := (cs.head?.map isSpacing).getD true

/-- Characters that start something other than a text. -/
def leadingMarks : List Char :=
  ['#', ',', '[', ']', '\x7b', '\x7d', '&', '*', '!', '|', '>', '\'', '"', '%', '@', '\x60']

/-- Whether the first character could be misread. -/
def startsSpecially : List Char → Bool
  | [] => false
  | c :: rest =>
    leadingMarks.contains c || ((c == '?' || c == ':' || c == '-') && spacingFollows rest)

/-- Whether a later character could be misread: a colon before spacing, a number sign after it. -/
def continuesSpecially : Char → List Char → Bool
  | _, [] => false
  | before, c :: rest =>
    (c == ':' && spacingFollows rest) || (c == '#' && isSpacing before) || continuesSpecially c rest

/-- Whether the text has a character that could be misread. -/
def hasMarks (cs : List Char) : Bool :=
  startsSpecially cs ||
    (match cs with
    | c :: rest => continuesSpecially c rest
    | [] => false) ||
    ['-', '-', '-'].isPrefixOf cs || ['.', '.', '.'].isPrefixOf cs

/-- Whether two neighbours are of the given kinds. -/
def hasPair (first second : Char → Bool) : List Char → Bool
  | a :: b :: rest => (first a && second b) || hasPair first second (b :: rest)
  | _ => false

def isSpaceOrBreak (c : Char) : Bool := c == ' ' || isBreak c

/-- Whether the text can stand between single quotes. -/
def fitsSingle (cs : List Char) : Bool :=
  !cs.any isSpecial && !hasPair isBreak (· == ' ') cs && !hasPair (· == ' ') isBreak cs

/-- Whether the text can stand without quotes. -/
def fitsPlain (cs : List Char) : Bool :=
  fitsSingle cs && !cs.any isBreak && !hasMarks cs &&
    !((cs.head?.map isSpaceOrBreak).getD false) && !((cs.getLast?.map isSpaceOrBreak).getD false)

/-- How a text is written. A key must stay on one line. -/
def styleOf (isKey : Bool) (s : String) : Style :=
  let cs := s.toList
  if standsForText s && fitsPlain cs then .plain
  else if fitsSingle cs && !(isKey && cs.any isBreak) then .single
  else .double

/-- The columns after which a line is folded. -/
def bestWidth : Nat := 80

/-- A line end and the blanks at the start of the next line. -/
def newLine (indent : Nat) : List Char := '\n' :: List.replicate indent ' '

/-- A run of equal blanks or line feeds, or a word between them. -/
inductive Run where
  | spaces (count : Nat)
  | breaks (count : Nat)
  | word (cs : List Char)

/-- Put a character in front of runs. -/
def Run.cons (c : Char) (runs : List Run) : List Run :=
  match c, runs with
  | ' ', .spaces n :: rest => .spaces (n + 1) :: rest
  | ' ', rest => .spaces 1 :: rest
  | '\n', .breaks n :: rest => .breaks (n + 1) :: rest
  | '\n', rest => .breaks 1 :: rest
  | c, .word cs :: rest => .word (c :: cs) :: rest
  | c, rest => .word [c] :: rest

def runsOf (cs : List Char) : List Run := cs.foldr Run.cons []

/-- Write runs from a column on. A single space inside the text is where a long line is folded; line
feeds are written once more than they are there. -/
def writeRuns (fold : Bool) (indent : Nat) : Bool → Nat → List Run → List Char
  | _, _, [] => []
  | _, column, .word cs :: rest =>
    cs ++ writeRuns fold indent true (column + cs.length) rest
  | inside, column, .spaces n :: rest =>
    if n == 1 && bestWidth < column && fold && inside && !rest.isEmpty then
      newLine indent ++ writeRuns fold indent true indent rest
    else List.replicate n ' ' ++ writeRuns fold indent true (column + n) rest
  | _, _, .breaks n :: rest =>
    List.replicate n '\n' ++ newLine indent ++ writeRuns fold indent true indent rest

/-- The letters of escapes. -/
def escapeLetters : List (Char × Char) :=
  [('\x00', '0'), ('\x07', 'a'), ('\x08', 'b'), ('\t', 't'), ('\n', 'n'), ('\x0b', 'v'),
    ('\x0c', 'f'), ('\r', 'r'), ('\x1b', 'e'), ('"', '"'), ('\\', '\\'), ('\x85', 'N'),
    ('\xa0', '_'), ('\u2028', 'L'), ('\u2029', 'P')]

def upperHex (width : Nat) (n : Nat) : List Char := (Text.hexDigits width n).map Char.toUpper

/-- The escape of a character, if it needs one. -/
def escape? (c : Char) : Option (List Char) :=
  match escapeLetters.lookup c with
  | some letter => some ['\\', letter]
  | none =>
    let code := Text.codeOf c
    if ' ' ≤ c && c ≤ '~' then none
    else if code ≤ 0xFF then some ('\\' :: 'x' :: upperHex 2 code)
    else if code ≤ 0xFFFF then some ('\\' :: 'u' :: upperHex 4 code)
    else some ('\\' :: 'U' :: upperHex 8 code)

/-- A fold inside double quotes: a backslash at the end of the line, and one at the start of the
next line if a space follows. -/
def foldDouble (indent : Nat) (spaceFollows : Bool) : List Char :=
  '\\' :: newLine indent ++ (if spaceFollows then ['\\'] else [])

def columnAfterFold (indent : Nat) (spaceFollows : Bool) : Nat :=
  if spaceFollows then indent + 1 else indent

/-- Write the rest of a text between double quotes. `pending` characters, last one first, are yet to
be written at `column`; the line may be folded unless this is the first or the last character. -/
def writeDouble (fold : Bool) (indent : Nat) : Bool → Nat → List Char → List Char → List Char
  | _, _, pending, [] => pending.reverse
  | first, column, pending, c :: rest =>
    let mayFold := fold && !first && !rest.isEmpty
    match escape? c with
    | some escaped =>
      let column := column + pending.length + escaped.length
      let space := rest.head? == some ' '
      if mayFold && bestWidth + 1 < column then
        pending.reverse ++ escaped ++ foldDouble indent space ++
          writeDouble fold indent false (columnAfterFold indent space) [] rest
      else pending.reverse ++ escaped ++ writeDouble fold indent false column [] rest
    | none =>
      let space := c == ' '
      if mayFold && (space || pending.isEmpty) && bestWidth < column + pending.length then
        pending.reverse ++ foldDouble indent space ++
          writeDouble fold indent false (columnAfterFold indent space) [c] rest
      else writeDouble fold indent false column (c :: pending) rest

/-- Write every single quote twice. -/
def doubleQuotes (cs : List Char) : List Char :=
  cs.flatMap fun c => if c == '\'' then ['\'', '\''] else [c]

/-- Write a text at a column; folded lines start at an indent. -/
def writeText (isKey : Bool) (indent column : Nat) (s : String) : List Char :=
  match styleOf isKey s with
  | .plain => writeRuns (!isKey) indent false column (runsOf s.toList)
  | .single =>
    '\'' :: writeRuns (!isKey) indent false (column + 1) (runsOf (doubleQuotes s.toList)) ++ ['\'']
  | .double => '"' :: writeDouble (!isKey) indent true (column + 1) [] s.toList ++ ['"']

end TablePipeline.Yaml
