import TablePipeline.Calendar.Date
import TablePipeline.Text.Case

/-!
Writing a day or a time by a pattern. First the directives for microseconds and for the zone, of
which there is none, are replaced; a pattern ends at the character NUL. Then every directive, which
is a percent sign, flags, a width and a letter, is replaced by its field, and what is no directive
is copied. Names are English and a year is written without leading zeros. A text that outgrows the
room for its pattern comes out empty.
-/
namespace TablePipeline.Calendar

def dayNames : List String :=
  ["Monday", "Tuesday", "Wednesday", "Thursday", "Friday", "Saturday", "Sunday"]

def monthNames : List String :=
  ["January", "February", "March", "April", "May", "June", "July", "August", "September",
    "October", "November", "December"]

def abbreviated (name : String) : String := String.ofList (name.toList.take 3)

def dayName (weekday : Nat) : String := dayNames.getD weekday ""
def monthName (month : Nat) : String := monthNames.getD (month - 1) ""

/-- How a directive wants its field filled and cased. -/
structure Style where
  fill : Option Char := none
  upper : Bool := false
  change : Bool := false
  width : Nat := 0

/-- Split a directive: its flags and width, then the rest from its letter on. A width is at most
`room`. -/
def Style.take (room : Nat) : Style → List Char → Style × List Char
  | style, c :: rest =>
    if c == '_' || c == '-' || c == '0' then take room { style with fill := some c } rest
    else if c == '^' then take room { style with upper := true } rest
    else if c == '#' then take room { style with change := true } rest
    else
      let digits := (c :: rest).takeWhile (·.isDigit)
      let width := digits.foldl (fun n d => n * 10 + (d.toNat - 48)) 0
      ({ style with width := min width room }, (c :: rest).drop digits.length)
  | style, [] => (style, [])

def fillTo (mark : Char) (width : Nat) (cs : List Char) : List Char :=
  List.replicate (width - cs.length) mark ++ cs

/-- A field of letters: filled with blanks, or with zeros when asked. -/
def Style.word (style : Style) (s : String) : List Char :=
  let cs := if style.upper then s.toList.map Text.capital else s.toList
  fillTo (if style.fill == some '0' then '0' else ' ') style.width cs

/-- A field of digits: at least `digits` of them, filled with `usual` unless asked otherwise. -/
def Style.number (style : Style) (usual : Char) (digits : Nat) (n : Int) : List Char :=
  let body := Nat.toDigits 10 n.natAbs
  let fill := style.fill.getD usual
  let mark := if fill == '0' then '0' else ' '
  let signed := fun (cs : List Char) => if n < 0 then '-' :: cs else cs
  if fill == '-' then fillTo ' ' style.width (signed body)
  else if mark == '0' then
    let room := max digits style.width - (if n < 0 then 1 else 0)
    signed (fillTo '0' room body)
  else fillTo ' ' (max digits style.width) (signed body)

/-- Letters that the flag for changed case turns to capitals. -/
def Style.name (style : Style) (s : String) : List Char :=
  ({ style with upper := style.upper || style.change }).word s

/-- The half of the day. -/
def half (t : DateTime) : String := if t.hour < 12 then "AM" else "PM"

def hourOfHalf (t : DateTime) : Nat := if t.hour % 12 == 0 then 12 else t.hour % 12

/-- Seconds since the start of 1970. -/
def epochSeconds (t : DateTime) : Int := (t.instant / 1000000 : Nat) - 719163 * 86400

/-- The patterns that some directives stand for. -/
def expansion? : Char → Option String
  | 'c' => some "%a %b %e %H:%M:%S %Y"
  | 'D' => some "%m/%d/%y"
  | 'x' => some "%m/%d/%y"
  | 'F' => some "%Y-%m-%d"
  | 'r' => some "%I:%M:%S %p"
  | 'R' => some "%H:%M"
  | 'T' => some "%H:%M:%S"
  | 'X' => some "%H:%M:%S"
  | _ => none

/-- A single field, if the letter names one. -/
def field? (t : DateTime) (style : Style) (letter : Char) : Option (List Char) :=
  let d := t.date
  let two (n : Nat) : Option (List Char) := some (style.number '0' 2 n)
  let twoBlank (n : Nat) : Option (List Char) := some (style.number '_' 2 n)
  let plain (n : Int) : Option (List Char) := some (style.number '0' 1 n)
  match letter with
  | 'a' => some (style.name (abbreviated (dayName d.weekday)))
  | 'A' => some (style.name (dayName d.weekday))
  | 'b' | 'h' => some (style.name (abbreviated (monthName d.month)))
  | 'B' => some (style.name (monthName d.month))
  | 'C' => plain (d.year / 100 : Nat)
  | 'd' => two d.day
  | 'e' => twoBlank d.day
  | 'g' => two (d.isoWeek.1 % 100)
  | 'G' => plain d.isoWeek.1
  | 'H' => two t.hour
  | 'I' => two (hourOfHalf t)
  | 'j' => some (style.number '0' 3 d.dayOfYear)
  | 'k' => twoBlank t.hour
  | 'l' => twoBlank (hourOfHalf t)
  | 'm' => two d.month
  | 'M' => two t.minute
  | 'n' => some (style.word "\n")
  | 'p' =>
    if style.change then
      some (fillTo (if style.fill == some '0' then '0' else ' ') style.width
        ((half t).toList.map (·.toLower)))
    else some (style.word (half t))
  | 'P' =>
    some (fillTo (if style.fill == some '0' then '0' else ' ') style.width
      ((half t).toList.map (·.toLower)))
  | 's' => some (style.word (toString (epochSeconds t)))
  | 'S' => two t.second
  | 't' => some (style.word "\t")
  | 'u' => plain (d.weekday + 1)
  | 'U' => two d.sundayWeek
  | 'V' => two d.isoWeek.2
  | 'w' => plain ((d.weekday + 1) % 7)
  | 'W' => two d.mondayWeek
  | 'y' => two (d.year % 100)
  | 'Y' => plain d.year
  | 'z' => some []
  | 'Z' => some (style.word "")
  | '%' => some (style.word "%")
  | _ => none

/-- The letters before which the modifiers E and O may stand; they change nothing. -/
def modifiable (modifier letter : Char) : Bool :=
  if modifier == 'E' then "cnprstuxyzCPRTXYZ%".toList.contains letter
  else modifier == 'O' && "bdeghjklmnprstuwyzBCGHIMPRSTUVWZ%".toList.contains letter

/-- A pattern whose directives are single fields without flags. -/
def formatPlain (t : DateTime) : List Char → List Char
  | '%' :: letter :: rest => (field? t {} letter).getD [] ++ formatPlain t rest
  | c :: rest => c :: formatPlain t rest
  | [] => []

/-- A directive that names no field, as it stands. The flag for changed case counts here only in
front of a month. -/
def Style.copied (style : Style) (letter : Char) (cs : List Char) : List Char :=
  let upper := style.upper || (style.change && (letter == 'b' || letter == 'h'))
  ({ style with upper }).word (String.ofList cs)

/-- The directive after a percent sign: its text and the number of characters it takes. -/
def directive (room : Nat) (t : DateTime) (rest : List Char) : List Char × Nat :=
  let (style, body) := Style.take room {} rest
  let (barred, body) :=
    match body with
    | modifier :: letter :: tail =>
      if modifier == 'E' || modifier == 'O' then (!modifiable modifier letter, letter :: tail)
      else (false, body)
    | _ => (false, body)
  match body with
  | [] => (style.copied '%' ('%' :: rest), rest.length)
  | letter :: tail =>
    let used := rest.length - tail.length
    match (if barred then none else field? t style letter),
      (if barred then none else expansion? letter) with
    | some text, _ => (text, used)
    | none, some pattern => (style.word (String.ofList (formatPlain t pattern.toList)), used)
    | none, none => (style.copied letter ('%' :: rest.take used), used)

def formatChars (room : Nat) (t : DateTime) : List Char → List Char
  | [] => []
  | c :: rest =>
    if c == '%' then
      let (text, used) := directive room t rest
      text ++ formatChars room t (rest.drop used)
    else c :: formatChars room t rest
  termination_by cs => cs.length
  decreasing_by all_goals simp only [List.length_cons, List.length_drop]; omega

/-- The pattern up to its end, with the microseconds in place and the zone left out. -/
def substituted (t : DateTime) : List Char → List Char
  | '%' :: 'z' :: rest | '%' :: 'Z' :: rest => substituted t rest
  | '%' :: 'f' :: rest => (padded 6 t.microsecond).toList ++ substituted t rest
  | '%' :: c :: rest => if c == '\x00' then ['%'] else '%' :: c :: substituted t rest
  | c :: rest => if c == '\x00' then [] else c :: substituted t rest
  | [] => []

/-- The room for a text: 1024 characters, doubled until there are 256 for each of the pattern. -/
def roomFor (size : Nat) : Nat :=
  if 256 * size ≤ 1024 then 1024 else Nat.pow 2 ((256 * size - 1).log2 + 1)

/-- A time written by a pattern. -/
def formatTime (pattern : String) (t : DateTime) : String :=
  let cs := substituted t pattern.toList
  let room := roomFor cs.length
  let text := formatChars room t cs
  if text.length < room then String.ofList text else ""

/-- A day written by a pattern, its time being midnight. -/
def formatDate (pattern : String) (d : Date) : String := formatTime pattern { date := d }

end TablePipeline.Calendar
