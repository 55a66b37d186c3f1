import TablePipeline.Text.CharacterSet.Extension
import TablePipeline.Text.Encoding.Head
import TablePipeline.Text.Surrogate

/-!
Encodings in which most characters are two bytes: the first byte tells the row of a character in a
set, the second one the cell. ASCII stays as it is. Some of these encodings have single bytes for
further characters, or three, four or eight bytes for those that the set does not have.
-/
namespace TablePipeline.Text

/-- How characters outside of the set are written. -/
inductive LongForm where
  | none
  /-- Three bytes, of which the first one is always the same, for another set of 94 cells a row. -/
  | supplement (set : CharacterSet)
  /-- Eight bytes that spell a Hangul syllable sound by sound. -/
  | spelled
  /-- Four bytes for all other codes in their order. -/
  | ordered
  deriving DecidableEq, Repr

/-- Ranges of numbers, each with its first and its last one. -/
abbrev Ranges := List (Nat × Nat)

namespace Ranges

/-- How many numbers of the ranges come before one of them. -/
def place? : Ranges → Nat → Option Nat
  | [], _ => none
  | (first, last) :: rest, n =>
    if first ≤ n && n ≤ last then some (n - first)
    else (place? rest n).map (· + (last + 1 - first))

/-- The number of the ranges that so many come before. -/
def nth? : Ranges → Nat → Option Nat
  | [], _ => none
  | (first, last) :: rest, n =>
    if n < last + 1 - first then some (first + n) else nth? rest (n - (last + 1 - first))

end Ranges

structure DoubleByte where
  /-- The name that faults give to the encoding. -/
  label : String
  set : CharacterSet
  /-- The first bytes of the rows. -/
  leads : Ranges
  /-- The second bytes of the cells. -/
  trails : Ranges
  /-- Single bytes that are characters: the first one, the code of its character and how many
  there are. -/
  singles : List (Nat × Nat × Nat) := []
  /-- Characters that are written like a character of ASCII. -/
  likened : List (Char × Char) := []
  /-- Whether any upper byte waits for the next one, and not only the first bytes of rows. -/
  waits : Bool := true
  long : LongForm := .none
  deriving DecidableEq, Repr

namespace DoubleByte

def illegal : String := "illegal multibyte sequence"

def incomplete : String := "incomplete multibyte sequence"

/-- The character of a byte on its own. -/
def single? (d : DoubleByte) (byte : Nat) : Option Char :=
  if byte < 0x80 then some (Char.ofNat byte)
  else d.singles.findSome? fun (first, code, count) =>
    if first ≤ byte && byte < first + count then some (Char.ofNat (code + (byte - first))) else none

/-- The byte of a character that is one byte. -/
def singleOf? (d : DoubleByte) (c : Char) : Option Nat :=
  let c := (d.likened.lookup c).getD c
  if c.toNat < 0x80 then some c.toNat
  else d.singles.findSome? fun (first, code, count) =>
    if code ≤ c.toNat && c.toNat < code + count then some (first + (c.toNat - code)) else none

/-- The character of two bytes. -/
def pair? (d : DoubleByte) (lead trail : Nat) : Option Char := do
  d.set.char? (← d.leads.place? lead) (← d.trails.place? trail)

/-- The two bytes of a character. -/
def pairOf? (d : DoubleByte) (c : Char) : Option (Nat × Nat) := do
  let (row, cell) ← d.set.place? c
  return (← d.leads.nth? row, ← d.trails.nth? cell)

/-! ## Spelled syllables -/

/-- The byte of every sound in a spelled syllable. -/
def sound : Nat := 0xA4

/-- The byte that stands for no sound. -/
def silence : Nat := 0xD4

/-- The bytes of the sounds with which a syllable starts. -/
def startingSounds : List Nat := [
  0xA1, 0xA2, 0xA4, 0xA7, 0xA8, 0xA9, 0xB1, 0xB2, 0xB3, 0xB5, 0xB6, 0xB7, 0xB8, 0xB9, 0xBA, 0xBB,
  0xBC, 0xBD, 0xBE]

/-- The bytes of vowels. -/
def middleSounds : List Nat := (List.range 21).map (0xBF + ·)

/-- The bytes of the sounds with which a syllable ends. -/
def endingSounds : List Nat := [
  silence, 0xA1, 0xA2, 0xA3, 0xA4, 0xA5, 0xA6, 0xA7, 0xA9, 0xAA, 0xAB, 0xAC, 0xAD, 0xAE, 0xAF,
  0xB0, 0xB1, 0xB2, 0xB4, 0xB5, 0xB6, 0xB7, 0xB8, 0xBA, 0xBB, 0xBC, 0xBD, 0xBE]

/-- The syllable of three sounds. -/
def syllable? (start middle ending : Nat) : Option Char := do
  let i ← startingSounds.idxOf? start
  let j ← middleSounds.idxOf? middle
  let k ← endingSounds.idxOf? ending
  return Char.ofNat (0xAC00 + i * 588 + j * 28 + k)

/-- The bytes of a syllable that is spelled. -/
def spell? (c : Char) : Option (List Nat) :=
  if c.toNat < 0xAC00 || 0xD7A3 < c.toNat then none
  else
    let place := c.toNat - 0xAC00
    some [sound, silence, sound, startingSounds.getD (place / 588) 0, sound,
      middleSounds.getD (place % 588 / 28) 0, sound, endingSounds.getD (place % 28) 0]

/-! ## Four bytes -/

/-- How many groups of four bytes come before one of them. -/
def orderOf (a b c d : Nat) : Nat :=
  (((a - 0x81) * 10 + (b - 0x30)) * 126 + (c - 0x81)) * 10 + (d - 0x30)

/-- The four bytes that so many groups come before. -/
def fourBytes (n : Nat) : List Nat :=
  [0x81 + n / 12600, 0x30 + n / 1260 % 10, 0x81 + n / 10 % 126, 0x30 + n % 10]

/-- The number of groups that come before the first one for a code from 0x10000 on. -/
def upperOrder : Nat := 15 * 12600

/-- How many codes below 0x10000 have four bytes. -/
def lowerCount : Nat := 39420

/-- The character of a group of four bytes. -/
def orderedChar? (n : Nat) : Option Char :=
  if n < lowerCount then
    (CharacterSet.fourByteRanges.takeWhile fun (_, before) => before ≤ n).getLast?.map
      fun (first, before) => Char.ofNat (first + (n - before))
  else if upperOrder ≤ n && n < upperOrder + 0x100000 then
    some (Char.ofNat (0x10000 + (n - upperOrder)))
  else none

/-- The four bytes of a code that does not have two. -/
def ordered (code : Nat) : List Nat :=
  if 0x10000 ≤ code then fourBytes (upperOrder + (code - 0x10000))
  else
    match (CharacterSet.fourByteRanges.takeWhile fun (first, _) => first ≤ code).getLast? with
    | some (first, before) => fourBytes (before + (code - first))
    | none => []

/-! ## Reading and writing -/

/-- The byte that a character of the supplement starts with. -/
def supplementLead : Nat := 0x8F

/-- The bytes of rows and cells of a set of 94 cells a row. -/
def upperRange : Ranges := [(0xA1, 0xFE)]

/-- What stands at the head of bytes that have a long form. -/
def longHead? (d : DoubleByte) (first second : Nat) (rest : List Nat) : Option Head :=
  match d.long with
  | .none => none
  | .supplement set =>
    if first != supplementLead then none
    else
      match rest with
      | [] => some (.cut incomplete)
      | third :: _ =>
        let char? : Option Char := do
          set.char? (← upperRange.place? second) (← upperRange.place? third)
        some ((char?.map (.char · 3)).getD (.bad 1 illegal))
  | .spelled =>
    if first != sound || second != silence then none
    else
      match rest with
      | a :: start :: b :: middle :: c :: ending :: _ =>
        if [a, b, c].all (· == sound) then
          some (((syllable? start middle ending).map (.char · 8)).getD (.bad 1 illegal))
        else some (.bad 1 illegal)
      | _ => some (.cut incomplete)
  | .ordered =>
    if second < 0x30 || 0x39 < second then none
    else
      match rest with
      | third :: fourth :: _ =>
        let inOrder := 0x81 ≤ first && first ≤ 0xFE && 0x81 ≤ third && third ≤ 0xFE &&
          0x30 ≤ fourth && fourth ≤ 0x39
        let char? := if inOrder then orderedChar? (orderOf first second third fourth) else none
        some ((char?.map (.char · 4)).getD (.bad 1 illegal))
      | _ => some (.cut incomplete)

/-- What stands at the head of bytes. -/
def head (d : DoubleByte) (first : Nat) (rest : List Nat) : Head :=
  match d.single? first with
  | some c => .char c 1
  | none =>
    if !d.waits && (d.leads.place? first).isNone then .bad 1 illegal
    else
      match rest with
      | [] => .cut incomplete
      | second :: rest =>
        match d.longHead? first second rest with
        | some head => head
        | none => ((d.pair? first second).map (.char · 2)).getD (.bad 1 illegal)

/-- The bytes of a character outside of the set. -/
def longBytes? (d : DoubleByte) (c : Char) : Option (List Nat) :=
  match d.long with
  | .none => none
  | .supplement set => do
    let (row, cell) ← set.place? c
    return [supplementLead, ← upperRange.nth? row, ← upperRange.nth? cell]
  | .spelled => spell? c
  | .ordered => if (surrogate? c).isSome then none else some (ordered c.toNat)

/-- The bytes of a character. -/
def bytes? (d : DoubleByte) (c : Char) : Option (List Nat) :=
  match d.singleOf? c with
  | some byte => some [byte]
  | none =>
    match d.pairOf? c with
    | some (lead, trail) => some [lead, trail]
    | none => d.longBytes? c

end DoubleByte

end TablePipeline.Text
