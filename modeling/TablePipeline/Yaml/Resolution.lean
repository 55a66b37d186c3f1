import TablePipeline.Text.Digit

/-!
Words of YAML that stand for something other than a text when they are written without quotes: truth
values, nothing, numbers, days and times. A text that looks like one of them has to be quoted.
-/
namespace TablePipeline.Yaml

open Text (isAsciiDigit)

def booleanWords : List String :=
  ["yes", "Yes", "YES", "no", "No", "NO", "true", "True", "TRUE", "false", "False", "FALSE", "on",
    "On", "ON", "off", "Off", "OFF"]

def nullWords : List String := ["", "~", "null", "Null", "NULL"]

/-- Marks that have a meaning of their own. -/
def markWords : List String := ["<<", "=", "!", "&", "*"]

def isDigitOrBar (c : Char) : Bool := isAsciiDigit c || c == '_'

def dropSign : List Char → List Char
  | '+' :: cs | '-' :: cs => cs
  | cs => cs

/-- Cut a word at every mark. -/
def cutAt (mark : Char) (cs : List Char) : List (List Char) :=
  cs.foldr (fun c parts =>
    if c == mark then [] :: parts
    else
      match parts with
      | part :: rest => (c :: part) :: rest
      | [] => [[c]]) [[]]

/-- Minutes or seconds: one digit, or two of which the first is at most 5. -/
def isSixtieth : List Char → Bool
  | [d] => isAsciiDigit d
  | [t, d] => '0' ≤ t && t ≤ '5' && isAsciiDigit d
  | _ => false

/-- Digits that are not empty, with bars after the first. -/
def isDigits : List Char → Bool
  | d :: ds => isAsciiDigit d && ds.all isDigitOrBar
  | [] => false

def isHexOrBar (c : Char) : Bool :=
  isDigitOrBar c || ('a' ≤ c && c ≤ 'f') || ('A' ≤ c && c ≤ 'F')

def isUnsignedInteger (cs : List Char) : Bool :=
  match cs with
  | '0' :: 'b' :: ds => !ds.isEmpty && ds.all fun c => c == '0' || c == '1' || c == '_'
  | '0' :: 'x' :: ds => !ds.isEmpty && ds.all isHexOrBar
  | '0' :: ds => ds.all fun c => ('0' ≤ c && c ≤ '7') || c == '_'
  | _ =>
    match cutAt ':' cs with
    | first :: rest => isDigits first && rest.all isSixtieth
    | [] => false

def isInteger (cs : List Char) : Bool := isUnsignedInteger (dropSign cs)

/-- An exponent with its sign, or nothing. -/
def isExponent : List Char → Bool
  | [] => true
  | e :: sign :: ds =>
    (e == 'e' || e == 'E') && (sign == '+' || sign == '-') && !ds.isEmpty && ds.all isAsciiDigit
  | _ => false

/-- Digits, a point, and perhaps more digits and an exponent; or sixtieths with a point. -/
def isPointed (cs : List Char) : Bool :=
  let front := cs.takeWhile fun c => isDigitOrBar c || c == ':'
  match cs.drop front.length with
  | '.' :: tail =>
    let more := tail.dropWhile isDigitOrBar
    match cutAt ':' front with
    | [digits] => isDigits digits && isExponent more
    | first :: rest => isDigits first && rest.all isSixtieth && more.isEmpty
    | [] => false
  | _ => false

def isFloat (cs : List Char) : Bool :=
  isPointed (dropSign cs) ||
    [".inf", ".Inf", ".INF"].contains (String.ofList (dropSign cs)) ||
    [".nan", ".NaN", ".NAN"].contains (String.ofList cs) ||
    (match cs with
    | '.' :: d :: ds => isAsciiDigit d && isExponent (ds.dropWhile isDigitOrBar)
    | _ => false)

/-- From `least` to `most` digits at the front, and what follows them. -/
def takeDigits? (least most : Nat) (cs : List Char) : Option (List Char) :=
  let count := (cs.takeWhile isAsciiDigit).length
  if least ≤ count && count ≤ most then some (cs.drop count) else none

def takeMark? (mark : Char) : List Char → Option (List Char)
  | c :: cs => if c == mark then some cs else none
  | [] => none

/-- A year, a month and a day, and what follows them. -/
def takeDay? (least : Nat) (cs : List Char) : Option (List Char) := do
  let cs ← takeDigits? 4 4 cs
  let cs ← takeMark? '-' cs
  let cs ← takeDigits? least 2 cs
  let cs ← takeMark? '-' cs
  takeDigits? least 2 cs

def isSpaceOrTab (c : Char) : Bool := c == ' ' || c == '\t'

/-- A zone: the letter for none, or a sign with hours and perhaps minutes. -/
def isZone : List Char → Bool
  | ['Z'] => true
  | sign :: rest =>
    (sign == '+' || sign == '-') &&
      (match takeDigits? 1 2 rest with
      | some [] => true
      | some more => ((takeMark? ':' more).bind (takeDigits? 2 2)) == some []
      | none => false)
  | [] => false

/-- A day and a time of day, perhaps with a fraction and a zone. -/
def isTime (cs : List Char) : Bool :=
  let parsed := do
    let cs ← takeDay? 1 cs
    let cs ←
      match cs with
      | 'T' :: rest | 't' :: rest => some rest
      | c :: rest => if isSpaceOrTab c then some (rest.dropWhile isSpaceOrTab) else none
      | [] => none
    let cs ← takeDigits? 1 2 cs
    let cs ← takeMark? ':' cs
    let cs ← takeDigits? 2 2 cs
    let cs ← takeMark? ':' cs
    takeDigits? 2 2 cs
  match parsed with
  | none => false
  | some rest =>
    let rest :=
      match rest with
      | '.' :: more => more.dropWhile isAsciiDigit
      | more => more
    rest.isEmpty || isZone (rest.dropWhile isSpaceOrTab)

def isTimestamp (cs : List Char) : Bool := takeDay? 2 cs == some [] || isTime cs

/-- Whether a word without quotes stands for a text. -/
def standsForText (s : String) : Bool :=
  let cs := s.toList
  !(booleanWords.contains s || nullWords.contains s || markWords.contains s || isInteger cs ||
    isFloat cs || isTimestamp cs)

end TablePipeline.Yaml
