import TablePipeline.Text.Blank
import TablePipeline.Text.Case
import TablePipeline.Text.Digit
import TablePipeline.Text.Quoted
import TablePipeline.Calendar.Format

/-!
Reading a day by a pattern. The pattern becomes a sequence of pieces: letters that must stand there
in either case, runs of blanks, and fields. A field has several spellings in order of preference;
the first choice of spellings that lets every piece match is the reading of the text.
-/
namespace TablePipeline.Calendar

open Text

/-- Why a text is not a day under a pattern. -/
inductive ScanFault where
  | badDirective (letter : Char) (pattern : String)
  | strayPercent (pattern : String)
  /-- The number of the field, the number it had before, and its place in the expression. -/
  | repeatedField (letter : Char) (number before position : Nat)
  | notListed (word : String)
  | mismatch (text pattern : String)
  | leftover (rest : String)
  | dayOutOfRange
  | yearOutOfRange (year : Nat)
  | secondOutOfRange
  | ordinalTooSmall
  | offsetOutOfRange (offset : Duration)
  | offsetColons (text : String)
  | offsetSeconds (text : String)
  | weekYearWithDayOfYear
  | weekYearAlone
  | weekAlone
  | weekWithPlainYear
  deriving DecidableEq

/-- A length of time as it is shown in a message. -/
def durationLiteral (d : Duration) : String :=
  let part (name : String) (n : Int) : List String := if n == 0 then [] else [s!"{name}={n}"]
  let parts := part "days" d.days ++ part "seconds" d.seconds ++ part "microseconds" d.micros
  let body := if parts.isEmpty then "0" else ", ".intercalate parts
  s!"datetime.timedelta({body})"

namespace ScanFault

def message : ScanFault → String
  | badDirective letter pattern => s!"'{letter}' is a bad directive in format '{pattern}'"
  | strayPercent pattern => s!"stray % in format '{pattern}'"
  | repeatedField letter number before position =>
    s!"redefinition of group name '{letter}' as group {number}; was group {before} at position {position}"
  | notListed word => s!"{quoted word} is not in list"
  | mismatch text pattern =>
    s!"time data {quoted text} does not match format {quoted pattern}"
  | leftover rest => s!"unconverted data remains: {rest}"
  | dayOutOfRange => "day is out of range for month"
  | yearOutOfRange year => s!"year {year} is out of range"
  | secondOutOfRange => "second must be in 0..59"
  | ordinalTooSmall => "ordinal must be >= 1"
  | offsetOutOfRange offset =>
    "offset must be a timedelta strictly between -timedelta(hours=24) and timedelta(hours=24), not "
      ++ durationLiteral offset ++ "."
  | offsetColons text => s!"Inconsistent use of : in {text}"
  | offsetSeconds text => s!"invalid literal for int() with base 10: {quoted text}"
  | weekYearWithDayOfYear =>
    "Day of the year directive '%j' is not compatible with ISO year directive '%G'. Use '%Y' instead."
  | weekYearAlone =>
    "ISO year directive '%G' must be used with the ISO week directive '%V' and a weekday directive ('%A', '%a', '%w', or '%u')."
  | weekAlone =>
    "ISO week directive '%V' must be used with the ISO year directive '%G' and a weekday directive ('%A', '%a', '%w', or '%u')."
  | weekWithPlainYear =>
    "ISO week directive '%V' is incompatible with the year directive '%Y'. Use the ISO year '%G' instead."

end ScanFault

/-- One character of a field's spelling. -/
inductive Glyph where
  | exact (c : Char)
  | between (low high : Char)
  | digit

/-- The glyph as a regular expression. -/
def Glyph.expression : Glyph → String
  | exact c => c.toString
  | between low high => s!"[{low}-{high}]"
  | digit => "\\d"

def Glyph.admits : Glyph → Char → Bool
  | exact c, d => c == d
  | between low high, d => low ≤ d && d ≤ high
  | digit, d => (digitValue? d).isSome

/-- The spellings of a field of digits, the preferred one first. -/
def spellings? (letter : Char) : Option (List (List Glyph)) :=
  let one (c : Char) : Glyph := .exact c
  let low : Glyph := .between '1' '9'
  match letter with
  | 'd' => some [[one '3', .between '0' '1'], [.between '1' '2', .digit], [one '0', low], [low],
      [one ' ', low]]
  | 'H' => some [[one '2', .between '0' '3'], [.between '0' '1', .digit], [.digit]]
  | 'I' | 'm' => some [[one '1', .between '0' '2'], [one '0', low], [low]]
  | 'G' | 'Y' => some [[.digit, .digit, .digit, .digit]]
  | 'j' => some [[one '3', one '6', .between '0' '6'], [one '3', .between '0' '5', .digit],
      [.between '1' '2', .digit, .digit], [one '0', low, .digit], [one '0', one '0', low],
      [low, .digit], [one '0', low], [low]]
  | 'M' => some [[.between '0' '5', .digit], [.digit]]
  | 'S' => some [[one '6', .between '0' '1'], [.between '0' '5', .digit], [.digit]]
  | 'U' | 'W' => some [[one '5', .between '0' '3'], [.between '0' '4', .digit], [.digit]]
  | 'w' => some [[.between '0' '6']]
  | 'u' => some [[.between '1' '7']]
  | 'V' => some [[one '5', .between '0' '3'], [one '0', low], [.between '1' '4', .digit], [.digit]]
  | 'y' => some [[.digit, .digit]]
  | 'f' => some ((List.range 6).reverse.map fun n => List.replicate (n + 1) (.between '0' '9'))
  | _ => none

/-- Longer words before shorter ones. -/
def longestFirst (words : List String) : List String :=
  words.mergeSort fun a b => b.length ≤ a.length

/-- The words of a field of letters, in lower case, the preferred one first. -/
def words? : Char → Option (List String)
  | 'A' => some (longestFirst (dayNames.map lower))
  | 'a' => some (dayNames.map fun name => lower (abbreviated name))
  | 'B' => some (longestFirst (monthNames.map lower))
  | 'b' => some (monthNames.map fun name => lower (abbreviated name))
  | 'p' => some ["am", "pm"]
  | 'Z' => some ["utc", "gmt"]
  | _ => none

/-- A piece of a pattern. -/
inductive Piece where
  | letter (c : Char)
  | blanks
  | field (letter : Char)
  deriving DecidableEq

/-- Directives that stand for several others. -/
def compound? : Char → Option (List Piece)
  | 'c' => some [.field 'a', .blanks, .field 'b', .blanks, .field 'd', .blanks, .field 'H',
      .letter ':', .field 'M', .letter ':', .field 'S', .blanks, .field 'Y']
  | 'x' => some [.field 'm', .letter '/', .field 'd', .letter '/', .field 'y']
  | 'X' => some [.field 'H', .letter ':', .field 'M', .letter ':', .field 'S']
  | _ => none

/-- Characters that a regular expression escapes to mean themselves. -/
def isSpecial (c : Char) : Bool := "\\.^$*+?(){}[]|".toList.contains c

/-- Characters after a percent sign that a message shows as a percent sign. -/
def isMark (c : Char) : Bool := isBlank c || isSpecial c

/-- The choices of a field as a regular expression. -/
def fieldExpression (letter : Char) : String :=
  match letter, spellings? letter, words? letter with
  | 'f', _, _ => "[0-9]\x7b1,6\x7d"
  | _, some forms, _ =>
    "|".intercalate (forms.map fun form => String.join (form.map Glyph.expression))
  | _, none, some words => "|".intercalate words
  | _, none, none =>
    "[+-]\\d\\d:?[0-5]\\d(:?[0-5]\\d(\\.\\d\x7b1,6\x7d)?)?|(?-i:Z)"

/-- A piece as a regular expression, a field being a named group. -/
def Piece.expression : Piece → String
  | letter c => if isSpecial c then s!"\\{c}" else c.toString
  | blanks => "\\s+"
  | field name => s!"(?P<{name}>{fieldExpression name})"

/-- The number of groups in a piece: an offset from universal time has two inner ones. -/
def Piece.groups : Piece → Nat
  | field 'z' => 3
  | field _ => 1
  | _ => 0

/-- The first field of a pattern that an earlier one repeats. Before the pieces stand `groups`
groups and `length` characters of the expression; `seen` are the fields so far with their
numbers. -/
def repeatedFrom (seen : List (Char × Nat)) (groups length : Nat) : List Piece → Option ScanFault
  | [] => none
  | piece :: more =>
    let next := fun seen =>
      repeatedFrom seen (groups + piece.groups) (length + piece.expression.length) more
    match piece with
    | .field letter =>
      match seen.lookup letter with
      | some before => some (.repeatedField letter (groups + 1) before (length + 4))
      | none => next ((letter, groups + 1) :: seen)
    | _ => next seen

def repeated? (parts : List Piece) : Option ScanFault := repeatedFrom [] 0 0 parts

/-- The pieces of a pattern. A run of blanks is one piece. -/
def pieces (pattern : String) : List Char → Except ScanFault (List Piece)
  | [] => .ok []
  | ['%'] => .error (.strayPercent pattern)
  | '%' :: letter :: rest => do
    let here ←
      if letter == '%' then .ok [.letter '%']
      else
        match compound? letter with
        | some parts => .ok parts
        | none =>
          if (spellings? letter).isSome || (words? letter).isSome || letter == 'z' then
            .ok [.field letter]
          else .error (.badDirective (if isMark letter then '%' else letter) pattern)
    let more ← pieces pattern rest
    .ok (here ++ more)
  | c :: rest => do
    let more ← pieces pattern rest
    if isBlank c then
      .ok (match more with
        | .blanks :: _ => more
        | _ => .blanks :: more)
    else .ok (.letter c :: more)

/-- The first letter of the lower case. -/
def lowerInitial (c : Char) : Char := (lowerChar c).headD c

/-- Whether two letters differ at most in case: in lower case they are one letter, or two that share
their upper case. -/
def sameLetter (a b : Char) : Bool :=
  a == b || lowerInitial a == lowerInitial b ||
    upperChar (lowerInitial a) == upperChar (lowerInitial b)

/-- Whether a text starts with a word in any case. -/
def startsWithWord : List Char → List Char → Bool
  | [], _ => true
  | _ :: _, [] => false
  | w :: word, c :: rest => sameLetter w c && startsWithWord word rest

def admitsAll : List Glyph → List Char → Bool
  | [], _ => true
  | _ :: _, [] => false
  | g :: glyphs, c :: rest => g.admits c && admitsAll glyphs rest

/-- The lengths of an offset from universal time at the head of a text, the longest first. -/
def offsetLengths (cs : List Char) : List Nat :=
  let d : Glyph := .digit
  let five : Glyph := .between '0' '5'
  let sign : Glyph := .between '+' '+'
  let minus : Glyph := .between '-' '-'
  let colon : Glyph := .exact ':'
  let opt : List (List Glyph) := [[colon], []]
  let tails : List (List Glyph) :=
    (opt.flatMap fun c =>
      let seconds := c ++ [five, d]
      ((List.range 6).reverse.map fun n => seconds ++ .exact '.' :: List.replicate (n + 1) d)
        ++ [seconds]) ++ [[]]
  let full : List (List Glyph) :=
    opt.flatMap fun c => tails.map fun tail => [d, d] ++ c ++ [five, d] ++ tail
  let signedForms := full.flatMap fun body => [sign :: body, minus :: body]
  ((signedForms.filter (admitsAll · cs)).map List.length) ++
    (if cs.head? == some 'Z' then [1] else [])

/-- The lengths of what a field may take at the head of a text, the preferred one first. -/
def fieldLengths (letter : Char) (cs : List Char) : List Nat :=
  match spellings? letter, words? letter with
  | some forms, _ => (forms.filter (admitsAll · cs)).map List.length
  | none, some words =>
    (words.filter fun word => startsWithWord word.toList cs).map String.length
  | none, none => offsetLengths cs

/-- What the fields of a pattern took from a text. -/
abbrev Captures := List (Char × List Char)

/-- Match the pieces against the head of a text: the captures and what is left. -/
def matchPieces : List Piece → List Char → Option (Captures × List Char)
  | [], cs => some ([], cs)
  | .letter c :: more, cs =>
    match cs with
    | d :: rest => if sameLetter c d then matchPieces more rest else none
    | [] => none
  | .blanks :: more, cs =>
    let most := (cs.takeWhile isBlank).length
    ((List.range most).reverse.map (· + 1)).findSome? fun n => matchPieces more (cs.drop n)
  | .field letter :: more, cs =>
    (fieldLengths letter cs).findSome? fun n =>
      (matchPieces more (cs.drop n)).map fun (captures, rest) =>
        ((letter, cs.take n) :: captures, rest)

/-- The natural number that a run of digits of any script writes. -/
def numberOf (cs : List Char) : Nat :=
  cs.foldl (fun n c => n * 10 + (digitValue? c).getD 0) 0

/-- What a text says about a day. -/
structure Findings where
  year : Option Nat := none
  weekYear : Option Nat := none
  month : Nat := 1
  day : Nat := 1
  second : Nat := 0
  weekday : Option Nat := none
  dayOfYear : Option Int := none
  isoWeek : Option Nat := none
  /-- The week of the year, and whether weeks start on Monday. -/
  week : Option (Nat × Bool) := none
  offset : Option Duration := none

/-- The place of a word among others, all in lower case. A field takes letters that differ from the
word's only in case, but their lower case may be another word. -/
def wordIndex (words : List String) (cs : List Char) : Except ScanFault Nat :=
  let word := lower (String.ofList cs)
  match words.findIdx? (· == word) with
  | some i => .ok i
  | none => .error (.notListed word)

/-- The offset from universal time that a text writes. -/
def offsetOf (cs : List Char) : Except ScanFault Duration :=
  match cs with
  | ['Z'] => .ok ⟨0⟩
  | sign :: body => do
    let hours := numberOf (body.take 2)
    let afterHours := body.drop 2
    let colon := afterHours.head? == some ':'
    let afterColon := if colon then afterHours.drop 1 else afterHours
    let minutes := numberOf (afterColon.take 2)
    let tail := afterColon.drop 2
    let tail ←
      if colon && !tail.isEmpty then
        if tail.head? == some ':' then .ok (tail.drop 1)
        else .error (.offsetColons (String.ofList cs))
      else .ok tail
    if tail.head? == some ':' then throw (.offsetSeconds (String.ofList (tail.take 2)))
    let seconds := numberOf (tail.take 2)
    let fraction := tail.drop 3
    let micros := numberOf (fraction ++ List.replicate (6 - fraction.length) '0')
    let total : Int :=
      ((hours * 3600 + minutes * 60 + seconds : Nat) : Int) * Duration.perSecond + micros
    .ok ⟨if sign == '-' then -total else total⟩
  | [] => .ok ⟨0⟩

/-- Add what one field took. -/
def Findings.add (f : Findings) (letter : Char) (cs : List Char) : Except ScanFault Findings :=
  let n := numberOf cs
  match letter with
  | 'y' => .ok { f with year := some (if n ≤ 68 then n + 2000 else n + 1900) }
  | 'Y' => .ok { f with year := some n }
  | 'G' => .ok { f with weekYear := some n }
  | 'm' => .ok { f with month := n }
  | 'B' => do .ok { f with month := (← wordIndex (monthNames.map lower) cs) + 1 }
  | 'b' => do
    .ok { f with month := (← wordIndex (monthNames.map fun m => lower (abbreviated m)) cs) + 1 }
  | 'd' => .ok { f with day := n }
  | 'S' => .ok { f with second := n }
  | 'A' => do .ok { f with weekday := some (← wordIndex (dayNames.map lower) cs) }
  | 'a' => do
    .ok { f with weekday := some (← wordIndex (dayNames.map fun d => lower (abbreviated d)) cs) }
  | 'w' => .ok { f with weekday := some ((n + 6) % 7) }
  | 'u' => .ok { f with weekday := some (n - 1) }
  | 'j' => .ok { f with dayOfYear := some n }
  | 'U' => .ok { f with week := some (n, false) }
  | 'W' => .ok { f with week := some (n, true) }
  | 'V' => .ok { f with isoWeek := some n }
  | 'z' => do .ok { f with offset := some (← offsetOf cs) }
  | _ => .ok f

def Findings.ofCaptures (captures : Captures) : Except ScanFault Findings :=
  captures.foldlM (fun f (letter, cs) => f.add letter cs) {}

/-- The first day of a year, or the fault that the calendar does not have it. -/
def newYear (year : Nat) : Except ScanFault Date :=
  match Date.ofParts? year 1 1 with
  | some d => .ok d
  | none => .error (.yearOutOfRange year)

/-- The day of the year from a week of the year and a weekday. -/
def dayOfWeek (year week weekday : Nat) (fromMonday : Bool) : Except ScanFault Int := do
  let first := (← newYear year).weekday
  let (first, weekday) :=
    if fromMonday then (first, weekday) else ((first + 1) % 7, (weekday + 1) % 7)
  if week == 0 then .ok (1 + (weekday : Int) - first)
  else .ok (1 + (((7 - first) % 7 + 7 * (week - 1) : Nat) : Int) + weekday)

/-- Year and day of the year from a week year, its week and a weekday. -/
def dayOfIsoWeek (year week weekday : Nat) : Except ScanFault (Nat × Int) := do
  let _ ← newYear year
  let correction : Int := (((daysBeforeYear year + 4 + 6) % 7 + 1 + 3 : Nat) : Int)
  let n : Int := week * 7 + (weekday + 1) - correction
  if n < 1 then
    let _ ← newYear (year - 1)
    .ok (year - 1, n + (daysBeforeYear year : Int) - daysBeforeYear (year - 1))
  else .ok (year, n)

/-- Reject combinations of week and year that name no day. A year that stands in the text beside the
year of the week, or a week of the year beside the week of that year, is not looked at. -/
def Findings.check (f : Findings) : Except ScanFault Unit :=
  if f.year.isNone && f.weekYear.isSome then
    if f.isoWeek.isNone || f.weekday.isNone then .error .weekYearAlone
    else if f.dayOfYear.isSome then .error .weekYearWithDayOfYear
    else .ok ()
  else if f.week.isNone && f.isoWeek.isSome then
    .error (if f.weekday.isNone then .weekAlone else .weekWithPlainYear)
  else .ok ()

/-- The year in force and the day of the year, if weeks or the text itself decide it. -/
def Findings.place (f : Findings) (year : Nat) : Except ScanFault (Nat × Option Int) :=
  match f.dayOfYear, f.weekday with
  | some n, _ => .ok (year, some n)
  | none, none => .ok (year, none)
  | none, some weekday =>
    match f.week, f.weekYear, f.isoWeek with
    | some (week, fromMonday), _, _ => do
      let n ← dayOfWeek year week weekday fromMonday
      if n ≤ 0 then .ok (year - 1, some (n + daysInYear (year - 1))) else .ok (year, some n)
    | none, some weekYear, some week => do
      let (year, n) ← dayOfIsoWeek weekYear week weekday
      if n ≤ 0 then .ok (year - 1, some (n + daysInYear (year - 1))) else .ok (year, some n)
    | none, _, _ => .ok (year, none)

/-- The day that a text says. A day without a year is in 1900. -/
def Findings.toDate (f : Findings) : Except ScanFault Date := do
  f.check
  let leapDay := f.year.isNone && f.month == 2 && f.day == 29
  let (year, place) ← f.place (f.year.getD (if leapDay then 1904 else 1900))
  let (year, month, day) ←
    match place with
    | none =>
      if year == 0 || maxYear < year then .error (.yearOutOfRange year)
      else if isDay year f.month f.day then .ok (year, f.month, f.day)
      else .error .dayOutOfRange
    | some n => do
      let first ← newYear year
      let ordinal : Int := n - 1 + first.ordinal
      if ordinal < 1 then .error .ordinalTooSmall
      else
        match Date.ofOrdinal? ordinal.toNat with
        | some d => .ok (d.year, d.month, d.day)
        | none => .error (.yearOutOfRange (maxYear + 1))
  match f.offset with
  | some offset =>
    if Duration.perDay ≤ offset.microseconds || offset.microseconds ≤ -Duration.perDay then
      throw (.offsetOutOfRange offset)
  | none => pure ()
  match Date.ofParts? (if leapDay then 1900 else year) month day with
  | none => .error .dayOutOfRange
  | some d => if 59 < f.second then .error .secondOutOfRange else .ok d

/-- Read a text as a day. -/
def scanDate (pattern text : String) : Except ScanFault Date := do
  let parts ← pieces pattern pattern.toList
  match repeated? parts with
  | some fault => throw fault
  | none => pure ()
  match matchPieces parts text.toList with
  | none => .error (.mismatch text pattern)
  | some (captures, rest) =>
    if rest.isEmpty then do (← Findings.ofCaptures captures).toDate
    else .error (.leftover (String.ofList rest))

end TablePipeline.Calendar
