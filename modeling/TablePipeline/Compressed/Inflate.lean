import TablePipeline.Compressed.Bits

/-!
Unpacking of deflated data: blocks of bytes that stand for themselves, or of symbols in a prefix
code. A symbol is a byte, the end of the block, or a length, after which a distance follows: so many
bytes are repeated from that far back.
-/
namespace TablePipeline.Compressed.Inflate

/-- The least length of each length symbol, with the number of bits that are added to it. -/
def lengthBases : List (Nat × Nat) := [
  (3, 0), (4, 0), (5, 0), (6, 0), (7, 0), (8, 0), (9, 0), (10, 0), (11, 1), (13, 1), (15, 1),
  (17, 1), (19, 2), (23, 2), (27, 2), (31, 2), (35, 3), (43, 3), (51, 3), (59, 3), (67, 4), (83, 4),
  (99, 4), (115, 4), (131, 5), (163, 5), (195, 5), (227, 5), (258, 0)]

/-- The least distance of each distance symbol, with the number of bits that are added to it. -/
def distanceBases : List (Nat × Nat) := [
  (1, 0), (2, 0), (3, 0), (4, 0), (5, 1), (7, 1), (9, 2), (13, 2), (17, 3), (25, 3), (33, 4),
  (49, 4), (65, 5), (97, 5), (129, 6), (193, 6), (257, 7), (385, 7), (513, 8), (769, 8), (1025, 9),
  (1537, 9), (2049, 10), (3073, 10), (4097, 11), (6145, 11), (8193, 12), (12289, 12), (16385, 13),
  (24577, 13)]

/-- The order in which the lengths of the codes for lengths are given. -/
def lengthOrder : List Nat := [16, 17, 18, 0, 8, 7, 9, 6, 10, 5, 11, 4, 12, 3, 13, 2, 14, 1, 15]

/-- The codes of a block: one for bytes and lengths, one for distances. -/
structure Codes where
  symbols : PrefixCode
  distances : PrefixCode

def codeOf (lengths : List Nat) : PrefixCode := .ofLengths 15 lengths

/-- The codes that need not be given. -/
def fixedCodes : Codes where
  symbols := codeOf (List.replicate 144 8 ++ List.replicate 112 9 ++ List.replicate 24 7 ++
    List.replicate 8 8)
  distances := codeOf (List.replicate 30 5)

/-- Whether a code can be used: it has no room left, or it has a single symbol or none. -/
def isUsable (code : PrefixCode) : Bool :=
  match code.room? with
  | none => false
  | some left => left == 0 || (code.counts.drop 1).all (· == 0)

/-- Repeat a byte from some distance back. -/
def copy (distance : Nat) : Nat → Unpack Unit
  | 0 => pure ()
  | length + 1 => do
    let output := (← get).output
    Unpack.emit (output.getD (output.size - distance) 0)
    copy distance length

/-- A number by its base and the bits that are added to it. -/
def extended (bases : List (Nat × Nat)) (symbol : Nat) (reason : String) : Unpack Nat := do
  match bases[symbol]? with
  | some (least, width) => pure (least + (← Unpack.numberUp width))
  | none => throw (.malformed reason)

/-- The repetition that a length symbol starts. -/
def repetition (codes : Codes) (symbol : Nat) : Unpack Unit := do
  let length ← extended lengthBases symbol "invalid literal/length code"
  let far := (← codes.distances.read).getD distanceBases.length
  let distance ← extended distanceBases far "invalid distance code"
  if (← get).output.size < distance then throw (.malformed "invalid distance too far back")
  copy distance length

/-- Unpack symbols up to the end of the block. -/
def symbols (codes : Codes) : Nat → Unpack Unit
  | 0 => throw .ended
  | fuel + 1 => do
    match ← codes.symbols.read with
    | none => throw (.malformed "invalid literal/length code")
    | some 256 => pure ()
    | some symbol =>
      if symbol < 256 then Unpack.emit (UInt8.ofNat symbol)
      else repetition codes (symbol - 257)
      symbols codes fuel

/-- Unpack bytes that stand for themselves. -/
def stored : Unpack Unit := do
  Unpack.align
  let length ← Unpack.numberUp 16
  let check ← Unpack.numberUp 16
  if length + check != 65535 then throw (.malformed "invalid stored block lengths")
  for _ in List.range length do
    Unpack.emit (UInt8.ofNat (← Unpack.numberUp 8))

/-- The lengths of codes, some of which are given as repetitions, the last one first. -/
def codeLengths (code : PrefixCode) (count : Nat) : Nat → List Nat → Unpack (List Nat)
  | 0, _ => throw .ended
  | fuel + 1, done => do
    if done.length == count then pure done.reverse
    else
      let symbol := (← code.read).getD 0
      let (times, length) ←
        match symbol, done with
        | 16, last :: _ => pure (3 + (← Unpack.numberUp 2), last)
        | 16, [] => throw (.malformed "invalid bit length repeat")
        | 17, _ => pure (3 + (← Unpack.numberUp 3), 0)
        | 18, _ => pure (11 + (← Unpack.numberUp 7), 0)
        | length, _ => pure (1, length)
      if count < done.length + times then throw (.malformed "invalid bit length repeat")
      codeLengths code count fuel (List.replicate times length ++ done)

/-- The codes that are given at the head of a block. -/
def givenCodes : Unpack Codes := do
  let symbolCount := 257 + (← Unpack.numberUp 5)
  let distanceCount := 1 + (← Unpack.numberUp 5)
  let lengthCount := 4 + (← Unpack.numberUp 4)
  if 286 < symbolCount || 30 < distanceCount then
    throw (.malformed "too many length or distance symbols")
  let given ← (lengthOrder.take lengthCount).mapM fun symbol => do
    pure (symbol, ← Unpack.numberUp 3)
  let lengthCode := codeOf ((List.range 19).map fun symbol => (given.lookup symbol).getD 0)
  if lengthCode.room? != some 0 then throw (.malformed "invalid code lengths set")
  let lengths ← codeLengths lengthCode (symbolCount + distanceCount) (← Unpack.bound) []
  if lengths.getD 256 0 == 0 then throw (.malformed "invalid code -- missing end-of-block")
  let codes : Codes := ⟨codeOf (lengths.take symbolCount), codeOf (lengths.drop symbolCount)⟩
  if !isUsable codes.symbols then throw (.malformed "invalid literal/lengths set")
  if !isUsable codes.distances then throw (.malformed "invalid distances set")
  pure codes

/-- Unpack blocks up to the last one. -/
def blocks : Nat → Unpack Unit
  | 0 => throw .ended
  | fuel + 1 => do
    let last ← Unpack.bit
    match ← Unpack.numberUp 2 with
    | 0 => stored
    | 1 => symbols fixedCodes (← Unpack.bound)
    | 2 => symbols (← givenCodes) (← Unpack.bound)
    | _ => throw (.malformed "invalid block type")
    if !last then blocks fuel

/-- Unpack a whole stream. -/
def stream : Unpack Unit := do blocks (← Unpack.bound)

end TablePipeline.Compressed.Inflate
