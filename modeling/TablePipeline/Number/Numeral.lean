import TablePipeline.Text.Blank
import TablePipeline.Text.Case
import TablePipeline.Text.Digit
import TablePipeline.Number.Binary64

/-!
Reading numerals. Digits of any script count, blanks around a numeral do not, and a single
underscore may stand between two digits. An integer numeral of too many digits is refused; a decimal
numeral is read as the nearest floating-point number.
-/
namespace TablePipeline.Numeral

open Text

/-- A character of a numeral, its digits reduced to ASCII ones. -/
def asciiForm (c : Char) : Char :=
  match digitValue? c with
  | some d => Char.ofNat (48 + d)
  | none => c

def asciiForms (s : String) : List Char := (trim s.toList).map asciiForm

/-- Remove the underscores; `none` if one does not stand between two digits. `afterDigit` tells
whether a digit came just before. -/
def dropUnderscoresAfter? : Bool → List Char → Option (List Char)
  | _, [] => some []
  | afterDigit, '_' :: rest =>
    match rest with
    | d :: _ => if afterDigit && isAsciiDigit d then dropUnderscoresAfter? false rest else none
    | [] => none
  | _, c :: rest => (dropUnderscoresAfter? (isAsciiDigit c) rest).map (c :: ·)

def dropUnderscores? (cs : List Char) : Option (List Char) :=
  if cs.contains '_' then dropUnderscoresAfter? false cs else some cs

/-- An optional sign; the result tells whether it is a minus. -/
def takeSign : List Char → Bool × List Char
  | '-' :: rest => (true, rest)
  | '+' :: rest => (false, rest)
  | cs => (false, cs)

def natOfDigits (ds : List Char) : Nat := ds.foldl (fun n d => n * 10 + (d.toNat - 48)) 0

/-- The most digits of an integer numeral that is read. -/
def maxDigits : Nat := 4300

inductive IntReading where
  | value (i : Int)
  | tooLong (digits : Nat)
  | malformed
  deriving DecidableEq, Repr

/-- Read an integer numeral: blanks, a sign, digits. -/
def readInt (s : String) : IntReading :=
  let (negative, body) := takeSign (asciiForms s)
  match dropUnderscores? body with
  | none => .malformed
  | some digits =>
    if digits.isEmpty || !digits.all isAsciiDigit then .malformed
    else if maxDigits < digits.length then .tooLong digits.length
    else
      let n := natOfDigits digits
      .value (if negative then -(n : Int) else n)

/-- An unsigned decimal numeral: `count · 10 ^ place`, or a number with the same neighbours. -/
structure Scientific where
  count : Nat
  place : Int
  deriving DecidableEq, Repr

/-- The exponent part of a decimal numeral, or nothing. -/
def readExponent? : List Char → Option Int
  | [] => some 0
  | e :: rest =>
    if e == 'e' || e == 'E' then
      let (negative, digits) := takeSign rest
      if digits.isEmpty || !digits.all isAsciiDigit then none
      else
        some (if negative then -(natOfDigits digits : Int) else natOfDigits digits)
    else none

/-- The digits of a numeral that decide which number is the nearest one. Numbers halfway between two
neighbours have fewer digits; of those behind them it only counts whether any is not zero. -/
def maxDecidingDigits : Nat := 1000

/-- The number that digits write, which may be followed by zeros, and how many these are. -/
def leadingDigits (digits : List Char) : Nat × Nat :=
  let digits := digits.dropWhile (· == '0')
  let rest := digits.drop maxDecidingDigits
  match rest with
  | [] => (natOfDigits digits, 0)
  | _ :: more =>
    let last := if rest.all (· == '0') then '0' else '1'
    (natOfDigits (digits.take maxDecidingDigits ++ [last]), more.length)

/-- Digits with or without a fraction, at least one digit in all, then an exponent or none. -/
def readScientific? (cs : List Char) : Option Scientific :=
  let whole := cs.takeWhile isAsciiDigit
  let afterWhole := cs.dropWhile isAsciiDigit
  let (fraction, rest) :=
    match afterWhole with
    | '.' :: tail => (tail.takeWhile isAsciiDigit, tail.dropWhile isAsciiDigit)
    | _ => ([], afterWhole)
  if whole.isEmpty && fraction.isEmpty then none
  else
    (readExponent? rest).map fun e =>
      let (count, zeros) := leadingDigits (whole ++ fraction)
      ⟨count, e + (zeros : Int) - (fraction.length : Int)⟩

/-- The nearest floating-point number. Values beyond 10 ^ 310 and below 10 ^ -330 are decided by
their number of digits alone. -/
def Scientific.toBinary64 (negative : Bool) (x : Scientific) : Binary64 :=
  if x.count == 0 then .zero negative
  else
    let size : Int := (Nat.toDigits 10 x.count).length + x.place
    if 310 < size then .infinite negative
    else if size < -330 then .zero negative
    else .ofRatio negative (x.count * Nat.pow 10 x.place.toNat) (Nat.pow 10 (-x.place).toNat)

/-- Read a decimal numeral, an infinity or a NaN; `none` for every other text. -/
def readFloat? (s : String) : Option Binary64 :=
  match dropUnderscores? (asciiForms s) with
  | none => none
  | some cs =>
    let (negative, body) := takeSign cs
    let word := String.ofList (body.map Char.toLower)
    if word == "inf" || word == "infinity" then some (.infinite negative)
    else if word == "nan" then some .nan
    else (readScientific? body).map (·.toBinary64 negative)

end TablePipeline.Numeral
