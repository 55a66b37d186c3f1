import TablePipeline.Compressed.Bits

/-!
Files of block-sorted streams. The bytes of a block are sorted by what follows them; then each is
written as its place among the bytes that were used last, and runs of the first place as a number. A
block is handed out when it has been read as a whole, and data after the last stream that are no
stream are ignored. Longer blocks that were shuffled before they were sorted are refused.
-/
namespace TablePipeline.Compressed.Bzip2

/-- The number with which a block starts. -/
def blockMark : Nat := 0x314159265359

/-- The number with which the end of a stream starts. -/
def endMark : Nat := 0x177245385090

/-- Fail unless the next bits are those of a number. -/
def expect (mark width : Nat) : Unpack Unit := do
  for byte in (List.range (width / 8)).reverse do
    if (← Unpack.numberDown 8) != mark / Nat.pow 256 byte % 256 then throw .badStream

/-- Take the item at a place out of a list. -/
def pick {α : Type} (items : List α) (place : Nat) : Unpack (α × List α) :=
  match items[place]? with
  | some a => pure (a, items.eraseIdx place)
  | none => throw .badStream

/-- The number of ones before the next zero. -/
def ones : Nat → Unpack Nat
  | 0 => throw .badStream
  | fuel + 1 => do if ← Unpack.bit then pure ((← ones fuel) + 1) else pure 0

/-- The bytes that occur in a block. -/
def usedBytes : Unpack (List Nat) := do
  let ranges ← Unpack.take 16
  let used ← ranges.zipIdx.mapM fun (isUsed, high) => do
    let lows ← if isUsed then Unpack.take 16 else pure []
    pure ((lows.zipIdx.filter (·.1)).map fun (_, low) => 16 * high + low)
  if used.flatten.isEmpty then throw .badStream
  pure used.flatten

/-- The numbers of the codes of successive groups of symbols. -/
def selectors (codeCount : Nat) : Nat → List Nat → Unpack (List Nat)
  | 0, _ => pure []
  | count + 1, recent => do
    let (selector, others) ← pick recent (← ones codeCount)
    pure (selector :: (← selectors codeCount count (selector :: others)))

/-- The length of a code, given as a change of the one before. -/
def nextLength : Nat → Nat → Unpack Nat
  | 0, _ => throw .ended
  | fuel + 1, length => do
    if length < 1 || 20 < length then throw .badStream
    if !(← Unpack.bit) then pure length
    else if ← Unpack.bit then nextLength fuel (length - 1)
    else nextLength fuel (length + 1)

/-- The lengths of so many codes. -/
def codeLengths : Nat → Nat → Unpack (List Nat)
  | 0, _ => pure []
  | count + 1, last => do
    let length ← nextLength (← Unpack.bound) last
    pure (length :: (← codeLengths count length))

/-- The symbols of a block up to its end, each group of fifty in its own code. -/
def symbols (codes : Array PrefixCode) (ending : Nat) : Nat → Nat → List Nat → Unpack (List Nat)
  | 0, _, _ => throw .ended
  | _, 0, [] => throw .badStream
  | fuel + 1, 0, selector :: selectors => symbols codes ending fuel 50 (selector :: selectors)
  | _, _ + 1, [] => throw .badStream
  | fuel + 1, left + 1, selector :: selectors => do
    match ← ((codes[selector]?).getD ⟨[], #[]⟩).read with
    | none => throw .badStream
    | some symbol =>
      if symbol == ending then pure []
      else
        let rest := if left == 0 then selectors else selector :: selectors
        pure (symbol :: (← symbols codes ending fuel left rest))

/-- The bytes of a block in sorted order, in reverse. `weight` is what the next digit of a run
counts, and `run` the length of the run so far. -/
def sortedBytes (limit : Nat) : List Nat → List Nat → Nat → Nat → List Nat → Unpack (List Nat)
  | [], recent, _, run, done =>
    if limit < done.length + run then throw .badStream
    else pure (List.replicate run (recent.headD 0) ++ done)
  | symbol :: rest, recent, weight, run, done => do
    if 2097152 ≤ weight then throw .badStream
    if symbol < 2 then sortedBytes limit rest recent (2 * weight) (run + (symbol + 1) * weight) done
    else
      if limit ≤ done.length + run then throw .badStream
      let done := List.replicate run (recent.headD 0) ++ done
      let (byte, others) ← pick recent (symbol - 1)
      sortedBytes limit rest (byte :: others) 1 0 (byte :: done)

/-- For each place in sorted order, the place of the byte that follows in the block. -/
def followers (sorted : List Nat) : Array Nat :=
  ((List.range 256).flatMap fun byte =>
    (sorted.zipIdx.filter fun (b, _) => b == byte).map (·.2)).toArray

/-- Follow the places of a block from one on. -/
def follow (sorted followers : Array Nat) : Nat → Nat → List Nat
  | 0, _ => []
  | count + 1, place =>
    let place := followers.getD place 0
    sorted.getD place 0 :: follow sorted followers count place

/-- Four equal bytes in a row are followed by the number of further ones. -/
def expandRuns : Nat → Nat → List Nat → List Nat
  | _, _, [] => []
  | run, last, byte :: rest =>
    if run == 4 then List.replicate byte last ++ expandRuns 0 0 rest
    else byte :: expandRuns (if run != 0 && byte == last then run + 1 else 1) byte rest

/-- How many bytes at the front of a block a shuffle leaves alone. -/
def unshuffled : Nat := 617

/-- Unpack a block whose mark has been read. The result is its checksum. -/
def block (level : Nat) : Unpack Nat := do
  let stated ← Unpack.numberDown 32
  let shuffled ← Unpack.bit
  let origin ← Unpack.numberDown 24
  if 10 + 100000 * level < origin then throw .badStream
  let used ← usedBytes
  let codeCount ← Unpack.numberDown 3
  if codeCount < 2 || 6 < codeCount then throw .badStream
  let selectorCount ← Unpack.numberDown 15
  if selectorCount == 0 then throw .badStream
  let selectors ← selectors codeCount selectorCount (List.range codeCount)
  let codes ← (List.range codeCount).mapM fun _ => do
    pure (PrefixCode.ofLengths 20 (← codeLengths (used.length + 2) (← Unpack.numberDown 5)))
  let symbols ← symbols codes.toArray (used.length + 1) (2 * (← Unpack.bound)) 0 selectors
  let sorted := (← sortedBytes (100000 * level) symbols used 1 0 []).reverse
  if sorted.length ≤ origin || (shuffled && unshuffled < sorted.length) then throw .badStream
  let bytes := expandRuns 0 0 (follow sorted.toArray (followers sorted) sorted.length origin)
  let content := bytes.map UInt8.ofNat
  content.forM Unpack.emit
  if checksum (bitsDownward content) != stated then throw .badStream
  pure stated

/-- The checksum of a stream after a further block. -/
def combined (crc block : Nat) : Nat := (crc * 2 % 4294967296 + crc / 2147483648) ^^^ block

/-- Unpack the blocks of a stream up to its end. -/
def blocks (level : Nat) : Nat → Nat → Unpack Unit
  | 0, _ => throw .ended
  | fuel + 1, crc => do
    let first ← Unpack.numberDown 8
    if first == endMark / Nat.pow 256 5 then
      expect endMark 40
      if (← Unpack.numberDown 32) != crc then throw .badStream
      Unpack.align
    else
      if first != blockMark / Nat.pow 256 5 then throw .badStream
      expect blockMark 40
      blocks level fuel (combined crc (← block level))

/-- Unpack a whole stream. -/
def stream : Unpack Unit := do
  expect 0x425A68 24
  let level ← Unpack.numberDown 8
  if level < 49 || 57 < level then throw .badStream
  blocks (level - 48) (← Unpack.bound) 0

/-- The content of the streams in pieces. The first stream must be there. -/
def unpackFrom : Nat → Bool → Bits → List (List UInt8) × Option StreamFault
  | 0, _, _ => ([], none)
  | fuel + 1, isFirst, bits =>
    if bits.isEmpty && !isFirst then ([], none)
    else
      match stream.run { bits } with
      | (.error .ended, done) => (done.pieces, some .ended)
      | (.error fault, done) =>
        (done.fullPieces, if isFirst || !done.fullPieces.isEmpty then some fault else none)
      | (.ok (), done) =>
        let (more, fault) := unpackFrom fuel false done.bits
        (done.pieces ++ more, fault)

/-- The content of a file in pieces, up to what cannot be unpacked. -/
def unpack (bytes : List UInt8) : List (List UInt8) × Option StreamFault :=
  unpackFrom (bytes.length + 1) true (bitsDownward bytes)

end TablePipeline.Compressed.Bzip2
