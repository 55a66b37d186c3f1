import TablePipeline.Text.Encoding.Head
import TablePipeline.Text.Surrogate

/-!
UTF-7: most of ASCII stays as it is, and all else is written in sections between a plus and a minus
sign. A section holds the UTF-16 units of its characters, six bits a letter. It may end without the
minus sign before a character that is no such letter.
-/
namespace TablePipeline.Text.Utf7

/-- The letters of sections by their values. -/
def letters : List Char :=
  "ABCDEFGHIJKLMNOPQRSTUVWXYZabcdefghijklmnopqrstuvwxyz0123456789+/".toList

/-- The value of a letter. -/
def value? (byte : UInt8) : Option Nat :=
  letters.idxOf? (Char.ofNat byte.toNat)

/-- Whether a byte outside of sections is read as a character. -/
def readsDirectly (byte : UInt8) : Bool := byte.toNat < 0x80 && byte.toNat != '+'.toNat

/-- Whether a character is written outside of sections. -/
def writesDirectly (c : Char) : Bool :=
  c == '\t' || c == '\n' || c == '\r' ||
    (' ' ≤ c && c ≤ '\x7d' && c != '+' && c != '\\')

/-! ## Reading -/

/-- What has been read of a section: the text, the half of a pair that waits for the other one, and
the bits that are no whole unit yet. -/
structure Reading where
  text : List Char := []
  half? : Option Nat := none
  bits : Nat := 0
  pending : Nat := 0

namespace Reading

/-- Half of a pair that stays alone. -/
def alone (half? : Option Nat) : List Char := (half?.map ofSurrogate).toList

def isLowHalf (unit : Nat) : Bool := 0xDC00 ≤ unit && unit < 0xE000

def isHighHalf (unit : Nat) : Bool := 0xD800 ≤ unit && unit < 0xDC00

/-- Take a whole unit. -/
def takeUnit (r : Reading) (unit : Nat) : Reading :=
  match r.half? with
  | some half =>
    if isLowHalf unit then
      { r with
        text := r.text ++ [Char.ofNat (0x10000 + (half - 0xD800) * 1024 + (unit - 0xDC00))]
        half? := none }
    else if isHighHalf unit then { r with text := r.text ++ [ofSurrogate half], half? := some unit }
    else { r with text := r.text ++ [ofSurrogate half, Char.ofNat unit], half? := none }
  | none =>
    if isHighHalf unit then { r with half? := some unit }
    else if isLowHalf unit then { r with text := r.text ++ [ofSurrogate unit] }
    else { r with text := r.text ++ [Char.ofNat unit] }

/-- Take the six bits of a letter. -/
def takeLetter (r : Reading) (value : Nat) : Reading :=
  let bits := r.bits + 6
  let pending := r.pending * 64 + value
  if 16 ≤ bits then
    let rest := Nat.pow 2 (bits - 16)
    { r with bits := bits - 16, pending := pending % rest }.takeUnit (pending / rest)
  else { r with bits, pending }

/-- Whether the bits left over are more than padding. -/
def isBroken (r : Reading) : Bool := 6 ≤ r.bits || r.pending != 0

end Reading

/-- Read a section of which `size` bytes have been read. -/
def sectionHead (final : Bool) (r : Reading) (size : Nat) : List UInt8 → Head
  | [] =>
    if !final then .cut "unterminated shift sequence"
    else if r.half?.isSome || r.isBroken then .bad size "unterminated shift sequence" r.text
    else .run r.text size
  | byte :: rest =>
    match value? byte with
    | some value => sectionHead final (r.takeLetter value) (size + 1) rest
    | none =>
      if 6 ≤ r.bits then .bad (size + 1) "partial character in shift sequence" r.text
      else if r.pending != 0 then
        .bad (size + 1) "non-zero padding bits in shift sequence" r.text
      else
        let text := if readsDirectly byte then r.text ++ Reading.alone r.half? else r.text
        .run text (if byte.toNat == '-'.toNat then size + 1 else size)

/-- What stands at the head of bytes. -/
def head (final : Bool) (first : UInt8) (rest : List UInt8) : Head :=
  if readsDirectly first then .char (Char.ofNat first.toNat) 1
  else if first.toNat != '+'.toNat then .bad 1 "unexpected special character"
  else
    match rest with
    | [] => sectionHead final {} 1 []
    | second :: _ =>
      if second.toNat == '-'.toNat then .char '+' 2
      else if (value? second).isNone then .bad 2 "ill-formed sequence"
      else sectionHead final {} 1 rest

/-! ## Writing -/

/-- The UTF-16 units of a code. -/
def units (code : Nat) : List Nat :=
  if code < 0x10000 then [code]
  else [0xD800 + (code - 0x10000) / 1024, 0xDC00 + (code - 0x10000) % 1024]

/-- The bits of units, the highest first. -/
def bitsOf (codes : List Nat) : List Bool :=
  (codes.flatMap units).flatMap fun unit =>
    (List.range 16).map fun place => unit.testBit (15 - place)

/-- The letters of bits. Missing bits of the last letter are zero. -/
def lettersOf (bits : List Bool) : List UInt8 :=
  match bits with
  | [] => []
  | bit :: rest =>
    let six := (bit :: rest.take 5) ++ List.replicate (5 - rest.length) false
    let value := six.foldl (fun n bit => n * 2 + (if bit then 1 else 0)) 0
    UInt8.ofNat (letters.getD value 'A').toNat :: lettersOf (rest.drop 5)
  termination_by bits.length
  decreasing_by simp only [List.length_cons, List.length_drop]; omega

/-- The bytes of a section, with the sign that ends it where the next character, if there is one,
does not. -/
def sectionBytes (codes : List Nat) (next? : Option Char) : List UInt8 :=
  let ends :=
    match next? with
    | some c => (value? (UInt8.ofNat c.toNat)).isSome || c == '-'
    | none => true
  '+'.toUInt8 :: lettersOf (bitsOf codes) ++ (if ends then ['-'.toUInt8] else [])

/-- The bytes of a text behind the codes of a section that is not yet written, in reverse. -/
def bytesFrom (codes : List Nat) : List Char → List UInt8
  | [] => if codes.isEmpty then [] else sectionBytes codes.reverse none
  | c :: rest =>
    if writesDirectly c then
      (if codes.isEmpty then [] else sectionBytes codes.reverse (some c)) ++
        UInt8.ofNat c.toNat :: bytesFrom [] rest
    else if codes.isEmpty && c == '+' then '+'.toUInt8 :: '-'.toUInt8 :: bytesFrom [] rest
    else bytesFrom (codeOf c :: codes) rest

/-- The bytes of a text. -/
def bytes (text : List Char) : List UInt8 := bytesFrom [] text

end TablePipeline.Text.Utf7
