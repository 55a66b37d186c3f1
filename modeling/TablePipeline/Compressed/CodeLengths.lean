import TablePipeline.Compressed.Bits

/-!
How long the codes of symbols should be. The two lightest groups of symbols are joined until one is
left, and each join makes the codes of its symbols longer by a bit. The groups are kept in a heap,
which decides between groups of the same weight. If a code gets too long, the weights are brought
closer to each other.
-/
namespace TablePipeline.Compressed

/-- Symbols that have been joined. -/
structure Joined where
  weight : Nat
  depth : Nat := 0
  symbols : List Nat

namespace Joined

/-- Whether one group is lighter than another, or as light and less deep. -/
def lighter (a b : Joined) : Bool :=
  a.weight < b.weight || (a.weight == b.weight && a.depth < b.depth)

def join (a b : Joined) : Joined where
  weight := a.weight + b.weight
  depth := max a.depth b.depth + 1
  symbols := a.symbols ++ b.symbols

end Joined

/-- Groups of symbols of which none is lighter than the one that it is below. Below a place are
those of twice the place and one or two more. -/
abbrev Heap := Array Joined

namespace Heap

def lighterAt (heap : Heap) (a b : Nat) : Bool :=
  match heap[a]?, heap[b]? with
  | some a, some b => a.lighter b
  | _, _ => false

/-- Move a group up to where it belongs. -/
def rise (heap : Heap) : Nat → Nat → Heap
  | 0, _ => heap
  | fuel + 1, place =>
    let above := (place - 1) / 2
    if 0 < place && lighterAt heap place above then
      rise (heap.swapIfInBounds place above) fuel above
    else heap

/-- Move a group down to where it belongs. -/
def sink (heap : Heap) : Nat → Nat → Heap
  | 0, _ => heap
  | fuel + 1, place =>
    let left := 2 * place + 1
    let below := if lighterAt heap (left + 1) left then left + 1 else left
    if heap.size ≤ left || lighterAt heap place below then heap
    else sink (heap.swapIfInBounds place below) fuel below

def insert (heap : Heap) (group : Joined) : Heap :=
  rise (heap.push group) (heap.size + 1) heap.size

/-- The lightest group and the heap without it. -/
def pop? (heap : Heap) : Option (Joined × Heap) :=
  heap[0]?.map fun lightest =>
    let rest := (heap.swapIfInBounds 0 (heap.size - 1)).pop
    (lightest, sink rest rest.size 0)

end Heap

namespace PrefixCode

/-- Join groups until one is left. The lengths count how often each symbol has been joined. -/
def lengthsFrom : Nat → Heap → Array Nat → Array Nat
  | 0, _, lengths => lengths
  | fuel + 1, heap, lengths =>
    match heap.pop? with
    | none => lengths
    | some (first, heap) =>
      match heap.pop? with
      | none => lengths
      | some (second, heap) =>
        let both := first.join second
        lengthsFrom fuel (heap.insert both)
          (both.symbols.foldl (fun lengths symbol => lengths.modify symbol (· + 1)) lengths)

/-- The lengths of codes for symbols of the given weights, none of them longer than the longest. -/
def lengthsOf (longest : Nat) : Nat → List Nat → List Nat
  | 0, weights => weights.map fun _ => longest
  | fuel + 1, weights =>
    let heap : Heap := weights.zipIdx.foldl (fun heap (weight, symbol) =>
      heap.insert ⟨weight, 0, [symbol]⟩) #[]
    let lengths := (lengthsFrom weights.length heap (Array.replicate weights.length 0)).toList
    if lengths.all (· ≤ longest) then lengths
    else lengthsOf longest fuel (weights.map fun weight => weight / 2 + 1)

/-- The bits of a number, the highest one first. -/
def bitsOfNumber (width n : Nat) : Bits := (List.range width).reverse.map n.testBit

/-- The codes of symbols by their lengths: shorter codes come before longer ones, and codes of one
length in the order of their symbols. -/
def codesOf (longest : Nat) (lengths : List Nat) : List Bits :=
  let room (length : Nat) := Nat.pow 2 (longest - length)
  lengths.zipIdx.map fun (length, symbol) =>
    let before := lengths.zipIdx.filter fun (other, place) =>
      other < length || (other == length && place < symbol)
    bitsOfNumber length (before.foldl (fun taken (other, _) => taken + room other) 0 / room length)

end PrefixCode

end TablePipeline.Compressed
