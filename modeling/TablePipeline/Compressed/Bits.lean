import TablePipeline.Text.Quoted

/-!
Reading compressed data bit by bit. What has been unpacked is kept also when the bits run out or
turn out to be wrong.
-/
namespace TablePipeline.Compressed

/-- Why compressed data cannot be unpacked. -/
inductive StreamFault where
  /-- The data do not start as they should; the first bytes are shown. -/
  | notArchive (shown : String)
  | unknownMethod
  /-- A stream breaks off. -/
  | ended
  /-- A stream says something that has no meaning. -/
  | malformed (reason : String)
  | badStream
  | checksum (stated found : Nat)
  | wrongLength
  deriving DecidableEq, Repr

/-- A number in hexadecimal digits. -/
def hexText (n : Nat) : String := "0x" ++ String.ofList (Nat.toDigits 16 n)

namespace StreamFault

def message : StreamFault → String
  | notArchive shown => s!"Not a gzipped file ({shown})"
  | unknownMethod => "Unknown compression method"
  | ended => "Compressed file ended before the end-of-stream marker was reached"
  | malformed reason => s!"Error -3 while decompressing data: {reason}"
  | badStream => "Invalid data stream"
  | checksum stated found => s!"CRC check failed {hexText stated} != {hexText found}"
  | wrongLength => "Incorrect length of data produced"

end StreamFault

abbrev Bits := List Bool

/-- The bits of a byte, the lowest one first. -/
def bitsOfByte (byte : UInt8) : Bits := (List.range 8).map fun place => byte.toNat.testBit place

/-- The bits of bytes; of each byte the lowest one comes first. -/
def bitsUpward (bytes : List UInt8) : Bits := bytes.flatMap bitsOfByte

/-- The bits of bytes; of each byte the highest one comes first. -/
def bitsDownward (bytes : List UInt8) : Bits := bytes.flatMap fun byte => (bitsOfByte byte).reverse

/-- The state of unpacking: the bits that are left, and the bytes that have been unpacked. -/
structure Unpacking where
  bits : Bits
  output : Array UInt8 := #[]

abbrev Unpack := ExceptT StreamFault (StateM Unpacking)

namespace Unpack

def bit : Unpack Bool := do
  match (← get).bits with
  | b :: rest =>
    modify fun s => { s with bits := rest }
    pure b
  | [] => throw .ended

/-- The next bits as a list. -/
def take : Nat → Unpack Bits
  | 0 => pure []
  | count + 1 => do
    let b ← bit
    pure (b :: (← take count))

/-- The number whose bits come next, the highest one first. -/
def numberDown (width : Nat) : Unpack Nat := do
  pure ((← take width).foldl (fun n b => 2 * n + b.toNat) 0)

/-- The number whose bits come next, the lowest one first. -/
def numberUp (width : Nat) : Unpack Nat := do
  pure ((← take width).foldr (fun b n => 2 * n + b.toNat) 0)

/-- Skip what is left of the byte. -/
def align : Unpack Unit := modify fun s => { s with bits := s.bits.drop (s.bits.length % 8) }

def emit (byte : UInt8) : Unpack Unit := modify fun s => { s with output := s.output.push byte }

/-- A bound for the number of steps that each read a bit. -/
def bound : Unpack Nat := do pure ((← get).bits.length + 1)

end Unpack

/-- How many bytes are handed out at a time. -/
def pieceSize : Nat := 8192

/-- Bytes in as many pieces as are given at most, all but the last of them full. -/
def cut : Nat → List UInt8 → List (List UInt8)
  | 0, _ => []
  | count + 1, bytes =>
    if bytes.isEmpty then [] else bytes.take pieceSize :: cut count (bytes.drop pieceSize)

/-- Bytes in pieces. -/
def pieces (bytes : List UInt8) : List (List UInt8) := cut (bytes.length / pieceSize + 1) bytes

namespace Unpacking

/-- What has been unpacked, in pieces. -/
def pieces (done : Unpacking) : List (List UInt8) := Compressed.pieces done.output.toList

/-- The full pieces of what has been unpacked: those that are handed out before the data turn out to
be wrong. -/
def fullPieces (done : Unpacking) : List (List UInt8) :=
  cut (done.output.size / pieceSize) done.output.toList

end Unpacking

/-- A prefix code: how many codes there are of each length, from one on, and the symbols in the
order of their codes. -/
structure PrefixCode where
  counts : List Nat
  symbols : Array Nat

namespace PrefixCode

/-- The code in which symbols have codes of the given lengths, or none where the length is zero. -/
def ofLengths (longest : Nat) (lengths : List Nat) : PrefixCode :=
  let ofLength (length : Nat) := (lengths.zipIdx.filter fun (n, _) => n == length).map (·.2)
  let classes := (List.range longest).map fun n => ofLength (n + 1)
  ⟨classes.map List.length, classes.flatten.toArray⟩

/-- How much room is left for further codes of the greatest length, or nothing if there are too many
codes already. -/
def room? (code : PrefixCode) : Option Nat :=
  code.counts.foldlM (fun left count =>
    if 2 * left < count then none else some (2 * left - count)) 1

/-- Read on in a code, of which the bits so far make a number; `first` is the least code of the
length, and `index` the place of its symbol. -/
def readFrom (symbols : Array Nat) : List Nat → Nat → Nat → Nat → Unpack (Option Nat)
  | [], _, _, _ => pure none
  | count :: rest, code, first, index => do
    let code := 2 * code + (← Unpack.bit).toNat
    if code < first + count then pure symbols[index + (code - first)]?
    else readFrom symbols rest code (2 * (first + count)) (index + count)

/-- Read a symbol. -/
def read (code : PrefixCode) : Unpack (Option Nat) := readFrom code.symbols code.counts 0 0 0

end PrefixCode

/-- The remainder of a step by which a checksum takes up a bit, from the highest one on. -/
def checksumStep (polynomial : Nat) (crc : Nat) (b : Bool) : Nat :=
  let shifted := crc % 2147483648 * 2
  if (2147483648 ≤ crc) != b then shifted ^^^ polynomial else shifted

/-- The number with the bits of a word of 32 bits the other way round. -/
def reversed (n : Nat) : Nat :=
  (List.range 32).foldl (fun r place => 2 * r + (n.testBit place).toNat) 0

/-- The checksum of bits. -/
def checksum (bits : Bits) : Nat :=
  bits.foldl (checksumStep 0x04C11DB7) 0xFFFFFFFF ^^^ 0xFFFFFFFF

end TablePipeline.Compressed
