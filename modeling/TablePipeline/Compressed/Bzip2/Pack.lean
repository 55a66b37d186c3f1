import TablePipeline.Compressed.Bzip2.Unpack
import TablePipeline.Compressed.CodeLengths

/-!
Packing of bytes in a block-sorted stream, with blocks of the greatest size.
-/
namespace TablePipeline.Compressed.Bzip2

/-- The runs of equal bytes with their lengths, where `count` equal bytes have been seen. -/
def runsFrom : Nat → Nat → List Nat → List (Nat × Nat)
  | byte, count, [] => [(byte, count)]
  | byte, count, next :: rest =>
    if next == byte && count < 255 then runsFrom byte (count + 1) rest
    else (byte, count) :: runsFrom next 1 rest

/-- The runs of equal bytes, none longer than 255, with their lengths. -/
def runs : List Nat → List (Nat × Nat)
  | [] => []
  | byte :: rest => runsFrom byte 1 rest

/-- A run as it stands in a block: from four equal bytes on, the number of further ones follows. -/
def shortened (run : Nat × Nat) : List Nat :=
  if run.2 < 4 then List.replicate run.2 run.1 else List.replicate 4 run.1 ++ [run.2 - 4]

/-- From this size on no further run is put into a block. -/
def fullSize : Nat := 899981

/-- The runs of each block; `current` holds those of the first one so far, the last one first, and
`size` is what they take. -/
def blockRuns : Nat → List (Nat × Nat) → List (Nat × Nat) → List (List (Nat × Nat))
  | _, [], [] => []
  | _, current, [] => [current.reverse]
  | size, current, run :: rest =>
    if fullSize ≤ size then current.reverse :: blockRuns (shortened run).length [run] rest
    else blockRuns (size + (shortened run).length) (run :: current) rest

/-- Whether a block, read in a circle from the place `i`, comes before the same from `j`. Where both
are equal, the later place comes first. -/
def startsLower (block : Array Nat) : Nat → Nat → Nat → Bool
  | 0, i, j => j ≤ i
  | fuel + 1, i, j =>
    let a := block.getD i 0
    let b := block.getD j 0
    if a == b then
      startsLower block fuel ((i + 1) % block.size) ((j + 1) % block.size)
    else a < b

/-- The places of a block, sorted by what follows from there on. -/
def sortedPlaces (block : Array Nat) : List Nat :=
  (List.range block.size).mergeSort (startsLower block block.size)

/-- A number in the digits one and two, the lowest one first, each written as one less. -/
def runDigits : Nat → List Nat
  | 0 => []
  | n + 1 => n % 2 :: runDigits (n / 2)
decreasing_by omega

/-- Bytes as their places among those that were used last; `run` bytes in the first place have just
been seen. -/
def placeSymbols : List Nat → Nat → List Nat → List Nat
  | _, run, [] => runDigits run
  | recent, run, byte :: rest =>
    match recent.idxOf byte with
    | 0 => placeSymbols recent (run + 1) rest
    | place => runDigits run ++ (place + 1) :: placeSymbols (byte :: recent.erase byte) 0 rest

/-- How many codes a block of so many symbols has. -/
def codeCount (symbolCount : Nat) : Nat :=
  if symbolCount < 200 then 2
  else if symbolCount < 600 then 3
  else if symbolCount < 1200 then 4
  else if symbolCount < 2400 then 5
  else 6

/-- Count symbols until their weights add up to a share. The result is how many they are, and their
weight. -/
def share (target : Nat) : Nat → Nat → List Nat → Nat × Nat
  | count, sum, [] => (count, sum)
  | count, sum, weight :: rest =>
    if sum < target then share target (count + 1) (sum + weight) rest else (count, sum)

/-- First lengths for codes, the last one first: each code is for a part of the symbols, and the
parts have about the same weight. Every other part is smaller by a symbol. -/
def firstLengths (codeCount : Nat) (weights : List Nat) : Nat → Nat → Nat → List (List Nat)
  | 0, _, _ => []
  | part + 1, start, left =>
    let (count, sum) := share (left / (part + 1)) 0 0 (weights.drop start)
    let shorter := 1 < count && part + 1 != codeCount && part != 0 && (codeCount - part) % 2 == 0
    let (count, sum) :=
      if shorter then (count - 1, sum - weights.getD (start + count - 1) 0) else (count, sum)
    let isOwn (symbol : Nat) : Bool := start ≤ symbol && symbol < start + count
    (weights.zipIdx.map fun (_, symbol) => if isOwn symbol then 0 else 15) ::
      firstLengths codeCount weights part (start + count) (left - sum)

/-- Symbols in groups of fifty. -/
def groups : Nat → List Nat → List (List Nat)
  | 0, _ => []
  | fuel + 1, symbols =>
    if symbols.isEmpty then [] else symbols.take 50 :: groups fuel (symbols.drop 50)

/-- The number of the code in which a group takes the fewest bits. -/
def bestCode (lengths : List (Array Nat)) (group : List Nat) : Nat :=
  let costs := lengths.map fun code => group.foldl (fun cost symbol => cost + code.getD symbol 0) 0
  costs.idxOf (costs.min?.getD 0)

/-- How often each symbol occurs. -/
def weightsOf (symbolCount : Nat) (symbols : List Nat) : List Nat :=
  (symbols.foldl (fun weights symbol => weights.modify symbol (· + 1))
    (Array.replicate symbolCount 0)).toList

/-- Choose the best code for each group, and then the best lengths of each code for the groups that
have chosen it; so many times. The result is the last choice, and the lengths after it. -/
def refine (symbolCount : Nat) (groups : List (List Nat)) :
    Nat → List Nat → List (List Nat) → List Nat × List (List Nat)
  | 0, chosen, lengths => (chosen, lengths)
  | times + 1, _, lengths =>
    let chosen := groups.map (bestCode (lengths.map List.toArray))
    let better := (List.range lengths.length).map fun code =>
      let own := (groups.zip chosen).filter fun (_, choice) => choice == code
      let weights := weightsOf symbolCount (own.flatMap (·.1))
      PrefixCode.lengthsOf 17 32 (weights.map fun weight => max weight 1)
    refine symbolCount groups times chosen better

/-- A number in unary. -/
def unary (n : Nat) : Bits := List.replicate n true ++ [false]

/-- The places of codes among those that were used last. -/
def codePlaces : List Nat → List Nat → List Nat
  | _, [] => []
  | recent, code :: rest => recent.idxOf code :: codePlaces (code :: recent.erase code) rest

/-- The lengths of a code, each as a change of the one before. -/
def lengthBits : Nat → List Nat → Bits
  | _, [] => []
  | last, length :: rest =>
    (List.replicate (length - last) [true, false]).flatten ++
      (List.replicate (last - length) [true, true]).flatten ++ false :: lengthBits length rest

/-- Which bytes occur in a block. -/
def usedBits (used : List Nat) : Bits :=
  let rows := (List.range 16).map fun high =>
    (List.range 16).map fun low => used.contains (16 * high + low)
  rows.map (·.contains true) ++ (rows.filter (·.contains true)).flatten

/-- The symbols of a block, each group in its code. -/
def symbolBits (symbolCount : Nat) (symbols : List Nat) : Bits :=
  let groups := groups symbols.length symbols
  let count := codeCount symbols.length
  let weights := weightsOf symbolCount symbols
  let start := (firstLengths count weights count 0 symbols.length).reverse
  let (chosen, lengths) := refine symbolCount groups 4 [] start
  let codes := (lengths.map fun code => (PrefixCode.codesOf 20 code).toArray).toArray
  PrefixCode.bitsOfNumber 3 count ++ PrefixCode.bitsOfNumber 15 groups.length ++
    (codePlaces (List.range count) chosen).flatMap unary ++
    (lengths.flatMap fun code =>
      PrefixCode.bitsOfNumber 5 (code.headD 0) ++ lengthBits (code.headD 0) code) ++
    (groups.zip chosen).flatMap fun (group, choice) =>
      group.flatMap fun symbol => (codes.getD choice #[]).getD symbol []

/-- The checksum of the bytes of runs. -/
def runsChecksum (runs : List (Nat × Nat)) : Nat :=
  checksum (bitsDownward (runs.flatMap fun (byte, count) =>
    List.replicate count (UInt8.ofNat byte)))

def blockBits (runs : List (Nat × Nat)) : Bits :=
  let block := (runs.flatMap shortened).toArray
  let places := sortedPlaces block
  let bytes := places.map fun place => block.getD ((place + block.size - 1) % block.size) 0
  let used := (List.range 256).filter block.contains
  PrefixCode.bitsOfNumber 48 blockMark ++ PrefixCode.bitsOfNumber 32 (runsChecksum runs) ++
    false :: PrefixCode.bitsOfNumber 24 (places.idxOf 0) ++ usedBits used ++
    symbolBits (used.length + 2) (placeSymbols used 0 bytes ++ [used.length + 1])

/-- Bits as bytes, of which the last one is filled up with zeros. -/
def bytesOfBits : Nat → Bits → List UInt8
  | 0, _ => []
  | fuel + 1, bits =>
    if bits.isEmpty then []
    else
      let byte := (List.range 8).foldl (fun n place => 2 * n + (bits.getD place false).toNat) 0
      UInt8.ofNat byte :: bytesOfBits fuel (bits.drop 8)

/-- A stream with the given content. -/
def pack (content : List UInt8) : List UInt8 :=
  let blocks := blockRuns 0 [] (runs (content.map UInt8.toNat))
  let crc := blocks.foldl (fun crc block => combined crc (runsChecksum block)) 0
  let bits := PrefixCode.bitsOfNumber 32 0x425A6839 ++ blocks.flatMap blockBits ++
    PrefixCode.bitsOfNumber 48 endMark ++ PrefixCode.bitsOfNumber 32 crc
  bytesOfBits bits.length bits

end TablePipeline.Compressed.Bzip2
