import TablePipeline.Text.CharacterName
import TablePipeline.Text.Encoding.Basic
import TablePipeline.Text.Encoding.Escaped
import TablePipeline.Text.Encoding.Utf7

/-!
Writing text as bytes, piece by piece. Characters that have no bytes are faults unless a policy says
what takes their place; positions in a fault count from the start of its piece.
-/
namespace TablePipeline.Text

namespace Coding

/-- The UTF-8 bytes of a code. -/
def utf8Bytes (n : Nat) : List UInt8 :=
  if n < 0x80 then [UInt8.ofNat n]
  else if n < 0x800 then [UInt8.ofNat (0xC0 + n / 64), UInt8.ofNat (0x80 + n % 64)]
  else if n < 0x10000 then
    [UInt8.ofNat (0xE0 + n / 4096), UInt8.ofNat (0x80 + n / 64 % 64), UInt8.ofNat (0x80 + n % 64)]
  else
    [UInt8.ofNat (0xF0 + n / 262144), UInt8.ofNat (0x80 + n / 4096 % 64),
      UInt8.ofNat (0x80 + n / 64 % 64), UInt8.ofNat (0x80 + n % 64)]

/-- The UTF-16 bytes of a code. -/
def utf16Bytes (order : ByteOrder) (n : Nat) : List UInt8 :=
  if n < 0x10000 then unitBytes order 2 n
  else
    unitBytes order 2 (0xD800 + (n - 0x10000) / 1024) ++
      unitBytes order 2 (0xDC00 + (n - 0x10000) % 1024)

/-- The bytes of a code in one of the codings of all codes. -/
def universalBytes? (coding : Coding) (n : Nat) : Option (List UInt8) :=
  match coding with
  | utf8 => some (utf8Bytes n)
  | utf16 order => some (utf16Bytes order n)
  | utf32 order => some (unitBytes order 4 n)
  | _ => none

/-- The bytes of a character, if it has any. -/
def charBytes? (coding : Coding) (c : Char) : Option (List UInt8) :=
  match coding with
  | latin1 => if c.toNat < 256 then some [UInt8.ofNat c.toNat] else none
  | ascii => if c.toNat < 128 then some [UInt8.ofNat c.toNat] else none
  | page p => (p.byte? c).map ([·])
  | doubleByte d => (d.bytes? c).map (·.map UInt8.ofNat)
  | utf7 => some (Utf7.bytes [c])
  | escaped true => some (Escaped.bytesOf (Escaped.fullForm c))
  | escaped false => some (Escaped.bytesOf (Escaped.bareForm c))
  | meaningless => none
  | _ => if (surrogate? c).isSome then none else coding.universalBytes? c.toNat

/-- Why a character has no bytes. -/
def refusal : Coding → String
  | latin1 => "ordinal not in range(256)"
  | ascii => "ordinal not in range(128)"
  | page _ => "character maps to <undefined>"
  | doubleByte _ => DoubleByte.illegal
  | _ => "surrogates not allowed"

/-- The bytes of characters, all of which must have some. -/
def allBytes? (coding : Coding) (cs : List Char) : Option (List UInt8) :=
  match coding with
  | utf7 => some (Utf7.bytes cs)
  | coding => (cs.mapM coding.charBytes?).map List.flatten

/-- A character by its name, or by its code if it has none. -/
def nameEscape (c : Char) : List Char :=
  match characterName? c with
  | some name => '\\' :: 'N' :: '\x7b' :: name.toList ++ ['\x7d']
  | none => codeEscape c

/-- Whether text is written byte by byte, and not in units of several bytes. -/
def writesSingly : Coding → Bool
  | utf16 _ | utf32 _ => false
  | _ => true

/-- Whether characters without bytes that follow each other are blamed together. -/
def blamesTogether : Coding → Bool
  | utf16 _ | utf32 _ | doubleByte _ => false
  | _ => true

/-- How many characters from the first one on are blamed together for having no bytes. -/
def blamed (coding : Coding) (rest : List Char) : Nat :=
  if coding.blamesTogether then 1 + (rest.takeWhile fun d => (coding.charBytes? d).isNone).length
  else 1

/-- What a policy writes for a character without bytes. -/
def writeSubstitute (coding : Coding) (policy : CodingPolicy) (c : Char) (fault : CodingFault) :
    Except CodingFault (List UInt8) :=
  let write (cs : List Char) : Except CodingFault (List UInt8) :=
    match coding.allBytes? cs with
    | some bytes => .ok bytes
    | none => .error fault
  match policy with
  | .strict => .error fault
  | .ignore => .ok []
  | .replace => write ['?']
  | .escape => write (codeEscape c)
  | .reference => write ('&' :: '#' :: (Nat.toDigits 10 (codeOf c) ++ [';']))
  | .nameEscape => write (nameEscape c)
  | .surrogateEscape =>
    if coding.writesSingly && 0xDC80 ≤ codeOf c && codeOf c ≤ 0xDCFF then
      .ok [UInt8.ofNat (codeOf c - 0xDC00)]
    else .error fault
  | .surrogatePass =>
    match (surrogate? c).bind coding.universalBytes? with
    | some bytes => .ok bytes
    | none => .error fault
  | .unknown name => .error (.unknownPolicy name)

/-- The bytes of a text whose first character has position `start`. -/
def encodeFrom (coding : Coding) (policy : CodingPolicy) :
    Nat → List Char → Except CodingFault (List UInt8)
  | _, [] => .ok []
  | start, c :: rest => do
    let bytes ←
      match coding.charBytes? c with
      | some bytes => .ok bytes
      | none =>
        coding.writeSubstitute policy c
          (.unencodable coding.label c start (coding.blamed rest) coding.refusal)
    let more ← encodeFrom coding policy (start + 1) rest
    .ok (bytes ++ more)

/-- The bytes of one piece of text. -/
def encode (coding : Coding) (policy : CodingPolicy) (cs : List Char) :
    Except CodingFault (List UInt8) :=
  match coding, coding.allBytes? cs with
  | meaningless, _ => .error .meaningless
  | _, some bytes => .ok bytes
  | coding, none => coding.encodeFrom policy 0 cs

end Coding

/-- A text as UTF-8. -/
def utf8Encode (cs : List Char) : List UInt8 := cs.flatMap fun c => Coding.utf8Bytes c.toNat

/-- The bytes that come before a text. -/
def Encoding.front (encoding : Encoding) : List UInt8 :=
  if encoding.marked then encoding.coding.mark else []

end TablePipeline.Text
