import TablePipeline.Text.CharacterName.Letters
import TablePipeline.Text.CharacterName.Pictures
import TablePipeline.Text.CharacterName.Signs
import TablePipeline.Text.Quoted

/-!
Names of characters. The names of ideographs and Hangul syllables follow from their codes; those of
the scripts and signs that are in wide use are listed in runs of consecutive codes.
-/
namespace TablePipeline.Text

/-- What the names begin with that end in the code of their character, and the codes. -/
def codedNames : List (String × List (Nat × Nat)) := [
  ("CJK UNIFIED IDEOGRAPH-", [
    (0x3400, 0x4DBF), (0x4E00, 0x9FFF), (0x20000, 0x2A6DF), (0x2A700, 0x2B738),
    (0x2B740, 0x2B81D), (0x2B820, 0x2CEA1), (0x2CEB0, 0x2EBE0), (0x30000, 0x3134A)]),
  ("CJK COMPATIBILITY IDEOGRAPH-", [(0xF900, 0xFA6D), (0xFA70, 0xFAD9), (0x2F800, 0x2FA1D)]),
  ("KHITAN SMALL SCRIPT CHARACTER-", [(0x18B00, 0x18CD5)]),
  ("NUSHU CHARACTER-", [(0x1B170, 0x1B2FB)])]

def isAmong (ranges : List (Nat × Nat)) (code : Nat) : Bool :=
  ranges.any fun (first, last) => first ≤ code && code ≤ last

/-- The sounds with which a Hangul syllable starts. -/
def leadingSounds : List String := [
  "G", "GG", "N", "D", "DD", "R", "M", "B", "BB", "S", "SS", "", "J", "JJ", "C", "K", "T", "P", "H"]

/-- The vowels of Hangul syllables. -/
def vowels : List String := [
  "A", "AE", "YA", "YAE", "EO", "E", "YEO", "YE", "O", "WA", "WAE", "OE", "YO", "U", "WEO", "WE",
  "WI", "YU", "EU", "YI", "I"]

/-- The sounds with which a Hangul syllable ends. -/
def trailingSounds : List String := [
  "", "G", "GG", "GS", "N", "NJ", "NH", "D", "L", "LG", "LM", "LB", "LS", "LT", "LP", "LH", "M",
  "B", "BS", "S", "SS", "NG", "J", "C", "K", "T", "P", "H"]

/-- The name of a Hangul syllable by its place among them. -/
def syllableName (place : Nat) : String :=
  "HANGUL SYLLABLE " ++ leadingSounds.getD (place / 588) "" ++ vowels.getD (place % 588 / 28) "" ++
    trailingSounds.getD (place % 28) ""

/-- A code in upper-case hexadecimal digits. -/
def upperHex (code : Nat) : String :=
  String.ofList ((hexDigits 4 code).map Char.toUpper)

/-- All runs in the order of their codes. -/
def nameRuns : List NameRun :=
  latinNames ++ accentNames ++ greekNames ++ cyrillicNames ++ nearEasternNames ++ indicNames ++
    southEasternNames ++ furtherScriptNames ++ accentedNames ++ signNames ++ mathNames ++
    technicalNames ++ shapeNames ++ symbolNames ++ furtherSignNames ++ eastAsianNames ++
    formNames ++ oldScriptNames ++ musicNames ++ mathLetterNames ++ gameNames ++ pictureNames ++
    beingNames ++ faceNames ++ travelNames ++ colourNames ++ furtherNames

/-- The name in the runs, of which only the last one that starts at the code or before it can have
it. -/
def listedName? (code : Nat) : Option String := do
  let run ← (nameRuns.takeWhile fun run => run.first ≤ code).getLast?
  run.names[code - run.first]?

/-- The name of a character. -/
def characterName? (c : Char) : Option String :=
  let code := c.toNat
  match codedNames.find? fun (_, codes) => isAmong codes code with
  | some (stem, _) => some (stem ++ upperHex code)
  | none =>
    if 0xAC00 ≤ code && code ≤ 0xD7A3 then some (syllableName (code - 0xAC00))
    else listedName? code

/-- The value of upper-case hexadecimal digits. -/
def upperHexValue (digits : List Char) : Nat :=
  digits.foldl (fun n c => n * 16 + (if c.isDigit then c.toNat - 0x30 else c.toNat - 0x37)) 0

/-- The character whose code its name ends in. -/
def coded? (name : String) : Option Char :=
  let c := Char.ofNat (upperHexValue (name.toList.reverse.takeWhile (· != '-')).reverse)
  if characterName? c == some name then some c else none

/-- The character with a name. Names of ideographs and syllables are in upper case. -/
def characterNamed? (name : String) : Option Char :=
  if name.startsWith "HANGUL SYLLABLE " then
    ((List.range 11172).find? fun place => syllableName place == name).map fun place =>
      Char.ofNat (0xAC00 + place)
  else if name.startsWith "CJK UNIFIED IDEOGRAPH-" then coded? name
  else
    let named := String.ofList (name.toList.map Char.toUpper)
    if codedNames.any fun (stem, _) => named.startsWith stem then
      if named.startsWith "CJK UNIFIED" then none else coded? named
    else
      nameRuns.findSome? fun run =>
        (run.names.idxOf? named).map fun place => Char.ofNat (run.first + place)

end TablePipeline.Text
