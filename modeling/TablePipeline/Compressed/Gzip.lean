import TablePipeline.Compressed.Inflate

/-!
Files of deflated members. A member has a header, a deflated stream, and the checksum and the length
of its bytes. What a member holds is handed out before its checksum is looked at; between members
there may be zeros.
-/
namespace TablePipeline.Compressed.Gzip

/-- The bytes with which a member starts. -/
def mark : List UInt8 := [0x1F, 0x8B]

/-- Whether a flag of a header is set. -/
def hasFlag (flags : UInt8) (place : Nat) : Bool := flags.toNat.testBit place

/-- Skip so many bytes, all of which must be there. -/
def skip (count : Nat) (bytes : List UInt8) : Except StreamFault (List UInt8) :=
  if bytes.length < count then .error .ended else .ok (bytes.drop count)

/-- Skip the bytes up to a zero, and the zero. -/
def skipText (bytes : List UInt8) : List UInt8 := (bytes.dropWhile (· != 0)).drop 1

def numberOf (bytes : List UInt8) : Nat := bytes.foldr (fun byte n => 256 * n + byte.toNat) 0

/-- The first bytes as a number, the lowest one first, and the bytes after them. -/
def number (width : Nat) (bytes : List UInt8) : Except StreamFault (Nat × List UInt8) := do
  let rest ← skip width bytes
  .ok (numberOf (bytes.take width), rest)

/-- The bytes after a header, of which the mark has been read. -/
def afterHeader (bytes : List UInt8) : Except StreamFault (List UInt8) := do
  let rest ← skip 8 bytes
  let flags := bytes.getD 1 0
  if bytes.getD 0 0 != 8 then throw .unknownMethod
  let rest ←
    if hasFlag flags 2 then do
      let (length, rest) ← number 2 rest
      skip length rest
    else .ok rest
  let rest := if hasFlag flags 3 then skipText rest else rest
  let rest := if hasFlag flags 4 then skipText rest else rest
  if hasFlag flags 1 then skip 2 rest else .ok rest

/-- The checksum of bytes. -/
def checksumOf (bytes : List UInt8) : Nat := reversed (checksum (bitsUpward bytes))

/-- The bytes after the checksum and the length of a member, which must be those of its content, and
after the zeros that follow. -/
def afterTrailer (content bytes : List UInt8) : Except StreamFault (List UInt8) := do
  let rest ← skip 8 bytes
  let stated := numberOf (bytes.take 4)
  let found := checksumOf content
  if stated != found then throw (.checksum stated found)
  if numberOf ((bytes.drop 4).take 4) != content.length % 4294967296 then throw .wrongLength
  .ok (rest.dropWhile (· == 0))

/-- A byte inside the literal form of bytes. -/
def escapedByte (quote : Char) (byte : UInt8) : List Char :=
  let c := Char.ofNat byte.toNat
  if c == quote || c == '\\' then ['\\', c]
  else if c == '\t' then ['\\', 't']
  else if c == '\n' then ['\\', 'n']
  else if c == '\r' then ['\\', 'r']
  else if ' ' ≤ c && c ≤ '~' then [c]
  else '\\' :: 'x' :: Text.hexDigits 2 byte.toNat

/-- The literal form of bytes. -/
def literal (bytes : List UInt8) : String :=
  let quote := if bytes.contains 39 && !bytes.contains 34 then '"' else '\''
  String.ofList ('b' :: quote :: (bytes.flatMap (escapedByte quote) ++ [quote]))

/-- The content of the members in pieces, up to what cannot be unpacked. -/
def unpackFrom : Nat → List UInt8 → List (List UInt8) × Option StreamFault
  | 0, _ => ([], none)
  | fuel + 1, bytes =>
    if bytes.isEmpty then ([], none)
    else if bytes.take 2 != mark then ([], some (.notArchive (literal (bytes.take 2))))
    else
      match afterHeader (bytes.drop 2) with
      | .error fault => ([], some fault)
      | .ok bytes =>
        match Inflate.stream.run { bits := bitsUpward bytes } with
        | (.error .ended, done) => (done.pieces, some .ended)
        | (.error fault, done) => (done.fullPieces, some fault)
        | (.ok (), done) =>
          let rest := bytes.drop (bytes.length - done.bits.length / 8)
          match afterTrailer done.output.toList rest with
          | .error fault => (done.pieces, some fault)
          | .ok bytes =>
            let (more, fault) := unpackFrom fuel bytes
            (done.pieces ++ more, fault)

/-- The content of a file in pieces, up to what cannot be unpacked. -/
def unpack (bytes : List UInt8) : List (List UInt8) × Option StreamFault :=
  unpackFrom (bytes.length + 1) bytes

/-- A number in so many bytes, the lowest one first. -/
def numberBytes (width n : Nat) : List UInt8 :=
  (List.range width).map fun place => UInt8.ofNat (n / Nat.pow 256 place % 256)

/-- A block of bytes that stand for themselves. -/
def storedBlock (isLast : Bool) (bytes : List UInt8) : List UInt8 :=
  UInt8.ofNat isLast.toNat :: numberBytes 2 bytes.length ++ numberBytes 2 (65535 - bytes.length) ++
    bytes

/-- The most bytes that a stored block may have. -/
def storedSize : Nat := 65535

/-- Bytes in stored blocks; with enough fuel, the last one is marked as such. -/
def storedBlocks : Nat → List UInt8 → List UInt8
  | 0, bytes => storedBlock true (bytes.take storedSize)
  | fuel + 1, bytes =>
    if bytes.length ≤ storedSize then storedBlock true bytes
    else storedBlock false (bytes.take storedSize) ++ storedBlocks fuel (bytes.drop storedSize)

/-- The header of a member without a name or a time. -/
def header : List UInt8 := mark ++ [8, 0, 0, 0, 0, 0, 2, 255]

/-- A member with the given content. -/
def pack (content : List UInt8) : List UInt8 :=
  header ++ storedBlocks (content.length / storedSize) content ++
    numberBytes 4 (checksumOf content) ++ numberBytes 4 (content.length % 4294967296)

end TablePipeline.Compressed.Gzip
