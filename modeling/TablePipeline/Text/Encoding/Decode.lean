import TablePipeline.Text.Encoding.Basic
import TablePipeline.Text.Encoding.Escaped
import TablePipeline.Text.Encoding.Utf7

/-!
Reading bytes as text, piece by piece. The start of a character that the next piece completes is
kept back. Bytes that stand for no character are faults unless a policy says what takes their place;
positions in a fault count from the start of its piece and what was kept back before it.
-/
namespace TablePipeline.Text

namespace Coding

/-- The values a second byte may have after a given first byte. -/
def secondRange (first : Nat) : Nat × Nat :=
  if first == 0xE0 then (0xA0, 0xBF)
  else if first == 0xED then (0x80, 0x9F)
  else if first == 0xF0 then (0x90, 0xBF)
  else if first == 0xF4 then (0x80, 0x8F)
  else (0x80, 0xBF)

def within (range : Nat × Nat) (byte : UInt8) : Bool :=
  range.1 ≤ byte.toNat && byte.toNat ≤ range.2

def invalidContinuation (size : Nat) : Head := .bad size "invalid continuation byte"

def unexpectedEnd : Head := .cut "unexpected end of data"

def utf8Head (first : UInt8) (rest : List UInt8) : Head :=
  let a := first.toNat
  if a < 0x80 then .char (Char.ofNat a) 1
  else if a < 0xC2 || 0xF4 < a then .bad 1 "invalid start byte"
  else
    match rest with
    | [] => unexpectedEnd
    | b :: rest =>
      if !within (secondRange a) b then invalidContinuation 1
      else if a < 0xE0 then .char (Char.ofNat (a % 32 * 64 + b.toNat % 64)) 2
      else
        match rest with
        | [] => unexpectedEnd
        | c :: rest =>
          if !within (0x80, 0xBF) c then invalidContinuation 2
          else if a < 0xF0 then
            .char (Char.ofNat (a % 16 * 4096 + b.toNat % 64 * 64 + c.toNat % 64)) 3
          else
            match rest with
            | [] => unexpectedEnd
            | d :: _ =>
              if !within (0x80, 0xBF) d then invalidContinuation 3
              else
                .char (Char.ofNat
                  (a % 8 * 262144 + b.toNat % 64 * 4096 + c.toNat % 64 * 64 + d.toNat % 64)) 4

/-- Whether a number is the first half of a pair of surrogates. -/
def isFirstHalf (n : Nat) : Bool := 0xD800 ≤ n && n < 0xDC00

/-- Whether a number is the second half of a pair of surrogates. -/
def isSecondHalf (n : Nat) : Bool := 0xDC00 ≤ n && n < 0xE000

def utf16Head (order : ByteOrder) (first : UInt8) (rest : List UInt8) : Head :=
  match rest with
  | [] => .cut "truncated data"
  | b :: rest =>
    let n := unitValue order [first, b]
    if isSecondHalf n then .bad 2 "illegal encoding"
    else if !isFirstHalf n then .char (Char.ofNat n) 2
    else
      match rest with
      | c :: d :: _ =>
        let m := unitValue order [c, d]
        if isSecondHalf m then
          .char (Char.ofNat (0x10000 + (n - 0xD800) * 1024 + (m - 0xDC00))) 4
        else .bad 2 "illegal UTF-16 surrogate"
      | _ => unexpectedEnd

def utf32Head (order : ByteOrder) (first : UInt8) (rest : List UInt8) : Head :=
  match rest with
  | b :: c :: d :: _ =>
    let n := unitValue order [first, b, c, d]
    if isSurrogate n then .bad 4 "code point in surrogate code point range (U+D800..U+DFFF)"
    else if n < 0x110000 then .char (Char.ofNat n) 4
    else .bad 4 "code point not in range(0x110000)"
  | _ => .cut "truncated data"

/-- What stands at the head of bytes, which are the last ones if `final`. -/
def head (coding : Coding) (final : Bool) (first : UInt8) (rest : List UInt8) : Head :=
  match coding with
  | utf8 => utf8Head first rest
  | utf16 order => utf16Head order first rest
  | utf32 order => utf32Head order first rest
  | latin1 => .char (Char.ofNat first.toNat) 1
  | ascii =>
    if first.toNat < 0x80 then .char (Char.ofNat first.toNat) 1
    else .bad 1 "ordinal not in range(128)"
  | page p =>
    match p.char? first with
    | some c => .char c 1
    | none => .bad 1 "character maps to <undefined>"
  | doubleByte d => d.head first.toNat ((rest.take 7).map UInt8.toNat)
  | utf7 => Utf7.head final first rest
  | escaped true => Escaped.fullHead first rest
  | escaped false => Escaped.bareHead final first rest
  | meaningless => .bad 1 "undefined"

/-- The lone surrogate that bytes write, and how many of them do. -/
def surrogateHead? (coding : Coding) (bytes : List UInt8) : Option (Nat × Nat) :=
  let found (n size : Nat) : Option (Nat × Nat) := if isSurrogate n then some (n, size) else none
  match coding, bytes with
  | utf8, a :: b :: c :: _ =>
    if within (0xE0, 0xEF) a && within (0x80, 0xBF) b && within (0x80, 0xBF) c then
      found (a.toNat % 16 * 4096 + b.toNat % 64 * 64 + c.toNat % 64) 3
    else none
  | utf16 order, a :: b :: _ => found (unitValue order [a, b]) 2
  | utf32 order, a :: b :: c :: d :: _ => found (unitValue order [a, b, c, d]) 4
  | _, _ => none

/-- Whether bytes are the first two of three that would write a lone surrogate. They are kept back
like the start of a character. -/
def isHalfSurrogate (coding : Coding) (bytes : List UInt8) : Bool :=
  match coding, bytes with
  | utf8, [a, b] => a == 0xED && within (0xA0, 0xBF) b
  | _, _ => false

/-- What a policy puts in the place of the first `size` bytes, which cannot be read, and the number
of bytes that it takes the place of. -/
def substitute (coding : Coding) (policy : CodingPolicy) (bytes : List UInt8) (size : Nat)
    (fault : CodingFault) : Except CodingFault (List Char × Nat) :=
  match policy with
  | .strict => .error fault
  | .ignore => .ok ([], size)
  | .replace => .ok (['\uFFFD'], size)
  | .escape =>
    .ok ((bytes.take size).flatMap fun byte => '\\' :: 'x' :: hexDigits 2 byte.toNat, size)
  | .reference | .nameEscape => .error .writingPolicy
  | .surrogateEscape =>
    let escaped := (bytes.take (min size 4)).takeWhile fun byte => 128 ≤ byte.toNat
    if escaped.isEmpty then .error fault
    else .ok (escaped.map fun byte => ofSurrogate (0xDC00 + byte.toNat), escaped.length)
  | .surrogatePass =>
    match surrogateHead? coding bytes with
    | some (n, size) => .ok ([ofSurrogate n], size)
    | none => .error fault
  | .unknown name => .error (.unknownPolicy name)

/-- Read the bytes from position `start` on. The result is the text and the bytes kept back; at the
end of the input (`final`) none are. -/
def decodeFrom (coding : Coding) (policy : CodingPolicy) (final : Bool) (start : Nat)
    (bytes : List UInt8) : Except CodingFault (List Char × List UInt8) :=
  match bytes with
  | [] => .ok ([], [])
  | first :: rest =>
    match coding.head final first rest with
    | .char c size => do
      let (text, kept) ← decodeFrom coding policy final (start + size) (rest.drop (size - 1))
      .ok (c :: text, kept)
    | .run text size => do
      let (more, kept) ← decodeFrom coding policy final (start + size) (rest.drop (size - 1))
      .ok (text ++ more, kept)
    | .bad size reason before =>
      if !final && coding.isHalfSurrogate bytes then .ok ([], bytes)
      else do
        let (shown, size) ← coding.substitute policy bytes size
          (.undecodable coding.label first start size reason)
        let (text, kept) ← decodeFrom coding policy final (start + size) (rest.drop (size - 1))
        .ok (before ++ shown ++ text, kept)
    | .cut reason =>
      if !final then .ok ([], bytes)
      else do
        let (shown, size) ← coding.substitute policy bytes bytes.length
          (.undecodable coding.label first start bytes.length reason)
        let (text, kept) ← decodeFrom coding policy final (start + size) (rest.drop (size - 1))
        .ok (shown ++ text, kept)
  termination_by bytes.length
  decreasing_by all_goals simp only [List.length_cons, List.length_drop]; omega

end Coding

/-- What has been read of a piece, what is kept back of it, and the coding once it is known. -/
structure Reading where
  text : List Char
  kept : List UInt8
  coding? : Option Coding

namespace Encoding

/-- Read bytes from a position on in a coding that is known from now on. -/
def readIn (coding : Coding) (policy : CodingPolicy) (final : Bool) (start : Nat)
    (bytes : List UInt8) : Except CodingFault Reading := do
  let (text, kept) ← coding.decodeFrom policy final start bytes
  .ok { text, kept, coding? := some coding }

/-- Read the first bytes of a text whose mark tells its byte order. Without a mark the order remains
open until a whole unit has been read, which is a fault. -/
def readOrdered (coding : ByteOrder → Coding) (name : String) (policy : CodingPolicy)
    (final : Bool) (piece : List UInt8) : Except CodingFault Reading :=
  let width := (coding .little).mark.length
  if (coding .little).mark.isPrefixOf piece then
    readIn (coding .little) policy final width (piece.drop width)
  else if (coding .big).mark.isPrefixOf piece then
    readIn (coding .big) policy final width (piece.drop width)
  else do
    let (text, kept) ← (coding .little).decodeFrom policy final 0 piece
    if width ≤ piece.length - kept.length then .error (.noMark name)
    else .ok { text, kept, coding? := none }

/-- Read the first bytes of a text that may start with a mark. A mark that is not complete is no
text. -/
def readMarked (policy : CodingPolicy) (final : Bool) (piece : List UInt8) :
    Except CodingFault Reading :=
  let mark := Coding.utf8.mark
  if piece.length < mark.length && piece.isPrefixOf mark then
    .ok { text := [], kept := piece, coding? := none }
  else readIn .utf8 policy final 0 (if mark.isPrefixOf piece then piece.drop mark.length else piece)

/-- Read the next piece of a text. -/
def readPiece (encoding : Encoding) (policy : CodingPolicy) (coding? : Option Coding)
    (final : Bool) (piece : List UInt8) : Except CodingFault Reading :=
  match coding?.getD encoding.coding, coding? with
  | .meaningless, _ => .error .meaningless
  | coding, some _ => readIn coding policy final 0 piece
  | _, none =>
    if !encoding.marked then readIn encoding.coding policy final 0 piece
    else
      match encoding.coding with
      | .utf16 _ => readOrdered .utf16 "UTF-16" policy final piece
      | .utf32 _ => readOrdered .utf32 "UTF-32" policy final piece
      | .utf8 => readMarked policy final piece
      | coding => readIn coding policy final 0 piece

/-- The text of successive pieces, with `kept` before the first of them, up to the first piece that
cannot be read. If the pieces break off, what is kept back at the end is not read. -/
def decodeFrom (encoding : Encoding) (policy : CodingPolicy) (breaksOff : Bool) :
    Option Coding → List UInt8 → List (List UInt8) → List Char × Option CodingFault
  | coding?, kept, [] =>
    if breaksOff then ([], none)
    else
      match encoding.readPiece policy coding? true kept with
      | .error fault => ([], some fault)
      | .ok reading => (reading.text, none)
  | coding?, kept, piece :: rest =>
    match encoding.readPiece policy coding? false (kept ++ piece) with
    | .error fault => ([], some fault)
    | .ok reading =>
      let (text, fault) := decodeFrom encoding policy breaksOff reading.coding? reading.kept rest
      (reading.text ++ text, fault)

/-- The text of pieces of bytes, up to the first piece that cannot be read. -/
def decode (encoding : Encoding) (policy : CodingPolicy) (breaksOff : Bool)
    (pieces : List (List UInt8)) : List Char × Option CodingFault :=
  decodeFrom encoding policy breaksOff none [] pieces

/-- The text of bytes that are read all at once. -/
def decodeAll (encoding : Encoding) (policy : CodingPolicy) (bytes : List UInt8) :
    Except CodingFault (List Char) := do
  .ok (← encoding.readPiece policy none true bytes).text

end Encoding

end TablePipeline.Text
