import Mathlib
import TablePipeline.Compressed.CodeLengths
import TablePipeline.Proofs.Unpacking

/-!
Prefix codes by their lengths. Joining the two lightest groups of symbols again and again gives
lengths for which there is just enough room, and where there is room for codes of given lengths a
reader finds the symbol of each code.
-/
namespace TablePipeline.Compressed

open Unpack

/-! ### Numbers in bits -/

/-- The number that bits make, the highest one first. -/
def numberOfBits (bits : Bits) : ℕ := bits.foldl (fun n b => 2 * n + b.toNat) 0

theorem foldl_bits (bits : Bits) (n : ℕ) :
    bits.foldl (fun n b => 2 * n + b.toNat) n = n * 2 ^ bits.length + numberOfBits bits := by
  induction bits generalizing n with
  | nil => simp [numberOfBits]
  | cons b bits ih =>
    have hall : numberOfBits (b :: bits) = b.toNat * 2 ^ bits.length + numberOfBits bits := by
      rw [numberOfBits, List.foldl_cons, ih, Nat.mul_zero, Nat.zero_add]
    rw [List.foldl_cons, ih, hall, List.length_cons, pow_succ]
    ring

theorem numberOfBits_cons (b : Bool) (bits : Bits) :
    numberOfBits (b :: bits) = b.toNat * 2 ^ bits.length + numberOfBits bits := by
  rw [numberOfBits, List.foldl_cons, foldl_bits, Nat.mul_zero, Nat.zero_add]

theorem numberOfBits_lt (bits : Bits) : numberOfBits bits < 2 ^ bits.length := by
  induction bits with
  | nil => simp [numberOfBits]
  | cons b bits ih =>
    rw [numberOfBits_cons, List.length_cons, pow_succ]
    cases b with
    | false => simp; omega
    | true => simp; omega

namespace PrefixCode

theorem length_bitsOfNumber (width n : ℕ) : (bitsOfNumber width n).length = width := by
  simp [bitsOfNumber]

theorem bitsOfNumber_succ (width n : ℕ) :
    bitsOfNumber (width + 1) n = n.testBit width :: bitsOfNumber width n := by
  simp [bitsOfNumber, List.range_succ]

/-- A number is what its bits make. -/
theorem numberOfBits_bitsOfNumber (width n : ℕ) :
    numberOfBits (bitsOfNumber width n) = n % 2 ^ width := by
  induction width with
  | zero => simp [bitsOfNumber, numberOfBits, Nat.mod_one]
  | succ width ih =>
    rw [bitsOfNumber_succ, numberOfBits_cons, length_bitsOfNumber, ih,
      Nat.testBit_eq_decide_div_mod_eq, Nat.mod_pow_succ]
    rcases Nat.mod_two_eq_zero_or_one (n / 2 ^ width) with h | h <;> simp [h, Nat.add_comm]

theorem gives_numberDown {width n : ℕ} (hn : n < 2 ^ width) (rest : Bits) (output : Array UInt8) :
    Gives (numberDown width) ⟨bitsOfNumber width n ++ rest, output⟩ n ⟨rest, output⟩ := by
  have htake := gives_take (bitsOfNumber width n) rest output
  rw [length_bitsOfNumber] at htake
  have hnumber := numberOfBits_bitsOfNumber width n
  rw [Nat.mod_eq_of_lt hn] at hnumber
  have hgives : Gives (numberDown width) ⟨bitsOfNumber width n ++ rest, output⟩
      (numberOfBits (bitsOfNumber width n)) ⟨rest, output⟩ := gives_bind htake (gives_pure _ _)
  rwa [hnumber] at hgives

end PrefixCode

/-! ### Reading a symbol -/

namespace PrefixCode

variable {symbols : Array ℕ}

/-- The least code after so many codes of each length. -/
def firstCode : List ℕ → ℕ → ℕ
  | [], first => first
  | count :: counts, first => firstCode counts (2 * (first + count))

theorem le_firstCode (counts : List ℕ) (first : ℕ) :
    first * 2 ^ counts.length ≤ firstCode counts first := by
  induction counts generalizing first with
  | nil => simp [firstCode]
  | cons count counts ih =>
    refine le_trans ?_ (ih (2 * (first + count)))
    rw [List.length_cons, pow_succ, ← Nat.mul_assoc, Nat.mul_right_comm, Nat.mul_comm (first * 2)]
    rw [Nat.mul_comm (2 ^ _)]
    exact Nat.mul_le_mul_right _ (by omega)

theorem firstCode_concat (counts : List ℕ) (count first : ℕ) :
    firstCode (counts ++ [count]) first = 2 * (firstCode counts first + count) := by
  induction counts generalizing first with
  | nil => rfl
  | cons _ counts ih => exact ih _

/-- A code of the length at which it stands among the codes is found there: shorter codes are all
less than its first bits. -/
theorem gives_readFrom {counts later : List ℕ} {count code first index place : ℕ} {bits : Bits}
    (hlength : bits.length = counts.length + 1) (hplace : place < count)
    (hcode : code * 2 ^ bits.length + numberOfBits bits = firstCode counts first + place)
    (rest : Bits) (output : Array UInt8) :
    Gives (readFrom symbols (counts ++ count :: later) code first index) ⟨bits ++ rest, output⟩
      symbols[index + counts.sum + place]? ⟨rest, output⟩ := by
  induction counts generalizing code first index bits with
  | nil =>
    obtain ⟨b, rfl⟩ := List.length_eq_one_iff.1 hlength
    have hnext : 2 * code + b.toNat = first + place := by
      simpa [numberOfBits, firstCode, Nat.mul_comm] using hcode
    refine gives_bind (gives_bit b rest output) ?_
    dsimp only
    rw [if_pos (by omega), hnext, Nat.add_sub_cancel_left]
    exact gives_pure _ _
  | cons other counts ih =>
    obtain ⟨b, bits, rfl⟩ := List.exists_cons_of_length_eq_add_one hlength
    rw [List.length_cons, List.length_cons, Nat.add_right_cancel_iff] at hlength
    have hnext : (2 * code + b.toNat) * 2 ^ bits.length + numberOfBits bits =
        firstCode counts (2 * (first + other)) + place := by
      rw [numberOfBits_cons, List.length_cons, pow_succ] at hcode
      rw [← firstCode, ← hcode]
      ring
    have hlater : ¬ 2 * code + b.toNat < first + other := by
      intro hlt
      have hfirst := le_firstCode counts (2 * (first + other))
      have hbits := numberOfBits_lt bits
      rw [hlength, pow_succ] at hbits hnext
      nlinarith [Nat.mul_le_mul_right (2 ^ counts.length * 2) (Nat.succ_le_of_lt hlt)]
    refine gives_bind (gives_bit b (bits ++ rest) output) ?_
    dsimp only
    rw [if_neg hlater, List.sum_cons, ← Nat.add_assoc]
    exact ih hlength hnext

/-! ### Codes of given lengths -/

/-- The room that a code takes among those of the greatest length. -/
def room (longest length : ℕ) : ℕ := 2 ^ (longest - length)

/-- The room that shorter codes take. -/
def taken (longest : ℕ) (lengths : List ℕ) (length : ℕ) : ℕ :=
  ((lengths.filter (· < length)).map (room longest)).sum

/-- There are codes of these lengths, so that none starts another one. -/
structure Fit (longest : ℕ) (lengths : List ℕ) : Prop where
  bounds : ∀ length ∈ lengths, 1 ≤ length ∧ length ≤ longest
  room_le : (lengths.map (room longest)).sum ≤ 2 ^ longest

variable {longest : ℕ} {lengths : List ℕ}

theorem taken_succ (longest : ℕ) (lengths : List ℕ) (length : ℕ) :
    taken longest lengths (length + 1) =
      taken longest lengths length + lengths.count length * room longest length := by
  induction lengths with
  | nil => simp [taken]
  | cons other lengths ih =>
    simp only [taken, List.filter_cons, List.count_cons, Nat.lt_succ_iff] at ih ⊢
    rcases lt_trichotomy other length with h | rfl | h
    · simp [h, h.ne, h.le, ih, Nat.add_assoc]
    · simp [ih, Nat.add_mul, Nat.add_comm, Nat.add_assoc]
    · simp [h.ne', h.not_gt, h.not_ge, ih]

theorem taken_append (longest : ℕ) (front back : List ℕ) (length : ℕ) :
    taken longest (front ++ back) length =
      taken longest front length + taken longest back length := by
  simp [taken]

theorem taken_le (longest : ℕ) (lengths : List ℕ) (length : ℕ) :
    taken longest lengths length ≤ (lengths.map (room longest)).sum :=
  ((List.filter_sublist (p := (· < length))).map _).sum_le_sum fun _ _ => Nat.zero_le _

/-- How many codes there are of each length. -/
def countsUpTo (lengths : List ℕ) (longest : ℕ) : List ℕ :=
  (List.range longest).map fun n => lengths.count (n + 1)

theorem taken_eq_firstCode (hlengths : ∀ length ∈ lengths, 1 ≤ length) {count : ℕ}
    (hcount : count < longest) :
    taken longest lengths (count + 1) =
      firstCode (countsUpTo lengths count) 0 * room longest (count + 1) := by
  induction count with
  | zero =>
    have hnone : lengths.filter (· < 1) = [] :=
      List.filter_eq_nil_iff.2 fun length h => by
        simpa [Nat.one_le_iff_ne_zero] using hlengths length h
    rw [taken, hnone]
    simp [firstCode, countsUpTo]
  | succ count ih =>
    have hroom : room longest (count + 1) = 2 * room longest (count + 1 + 1) := by
      rw [room, room, ← pow_succ']
      congr 1
      omega
    have hcounts : countsUpTo lengths (count + 1) =
        countsUpTo lengths count ++ [lengths.count (count + 1)] := by
      simp [countsUpTo, List.range_succ]
    rw [taken_succ, ih (by omega), hcounts, firstCode_concat, hroom]
    ring

theorem sum_filter_zipIdx {l : List ℕ} {start bound : ℕ} {p : ℕ × ℕ → Bool}
    (h : ∀ r ∈ l.zipIdx start, p r = decide (r.1 < bound)) :
    (((l.zipIdx start).filter p).map fun r => room longest r.1).sum = taken longest l bound := by
  have hfst : ((l.zipIdx start).filter fun r => decide (r.1 < bound)).map Prod.fst =
      l.filter (· < bound) := by
    rw [← List.zipIdx_map_fst start l, List.filter_map, List.zipIdx_map_fst]
    rfl
  rw [List.filter_congr h, taken, ← hfst, List.map_map]
  rfl

/-- The code of a symbol is so far behind the first one of its length as there are symbols with
codes of the same length before it. -/
theorem codesOf_getElem {front back : List ℕ} {length : ℕ}
    (hlengths : ∀ other ∈ front ++ length :: back, 1 ≤ other) (hlength : length ≤ longest) :
    (codesOf longest (front ++ length :: back))[front.length]? =
      some (bitsOfNumber length (firstCode (countsUpTo (front ++ length :: back) (length - 1)) 0 +
        front.count length)) := by
  have hpos : 1 ≤ length := hlengths length (by simp)
  have hfront : (((front.zipIdx.filter fun r => r.1 < length ||
      (r.1 == length && r.2 < front.length)).map fun r => room longest r.1).sum) =
        taken longest front length + front.count length * room longest length := by
    rw [← taken_succ]
    refine sum_filter_zipIdx fun r hr => ?_
    have hplace : r.2 < front.length := by simpa using (List.mem_zipIdx hr).2.1
    grind
  have hback : ((((length :: back).zipIdx front.length).filter fun r => r.1 < length ||
      (r.1 == length && r.2 < front.length)).map fun r => room longest r.1).sum =
        taken longest (length :: back) length := by
    refine sum_filter_zipIdx fun r hr => ?_
    have hplace : front.length ≤ r.2 := (List.mem_zipIdx hr).1
    grind
  have hcode := taken_eq_firstCode hlengths (show length - 1 < longest by omega)
  rw [Nat.sub_add_cancel hpos, taken_append] at hcode
  have hroom : 0 < room longest length := Nat.pow_pos two_pos
  have hbefore : ((front ++ length :: back).zipIdx.filter fun r => r.1 < length ||
      (r.1 == length && r.2 < front.length)).foldl (fun sum r => sum + room longest r.1) 0 =
        (firstCode (countsUpTo (front ++ length :: back) (length - 1)) 0 + front.count length) *
          room longest length := by
    rw [← List.foldl_map (f := fun r : ℕ × ℕ => room longest r.1) (g := (· + ·)),
      ← List.sum_eq_foldl, List.zipIdx_append, List.filter_append, List.map_append,
      List.sum_append, Nat.zero_add, hfront, hback, Nat.add_mul, ← hcode]
    ring
  have hzip : (front ++ length :: back).zipIdx[front.length]? = some (length, front.length) := by
    simp
  rw [codesOf, List.getElem?_map, hzip, Option.map_some]
  exact congrArg (some <| bitsOfNumber length ·) (Nat.div_eq_of_eq_mul_left hroom hbefore)

/-- A code has a bit more than those of its first bits. -/
theorem firstCode_add_lt {front back : List ℕ} {length : ℕ}
    (h : Fit longest (front ++ length :: back)) :
    firstCode (countsUpTo (front ++ length :: back) (length - 1)) 0 + front.count length <
      2 ^ length := by
  obtain ⟨hpos, hlength⟩ := h.bounds length (by simp)
  have hcode := taken_eq_firstCode (fun other hother => (h.bounds other hother).1)
    (show length - 1 < longest by omega)
  rw [Nat.sub_add_cancel hpos] at hcode
  have hsplit : 2 ^ longest = 2 ^ length * room longest length := by
    rw [room, ← pow_add, Nat.add_sub_cancel' hlength]
  have hall := (taken_le longest (front ++ length :: back) (length + 1)).trans h.room_le
  rw [taken_succ, hcode, ← Nat.add_mul, hsplit] at hall
  have hle := Nat.le_of_mul_le_mul_right hall (Nat.pow_pos two_pos)
  rw [List.count_append, List.count_cons_self] at hle
  omega

/-- The symbols of codes of one length. -/
def ofLength (lengths : List ℕ) (length : ℕ) : List ℕ :=
  (lengths.zipIdx.filter fun (n, _) => n == length).map (·.2)

theorem length_ofLength (lengths : List ℕ) (length : ℕ) :
    (ofLength lengths length).length = lengths.count length := by
  have hcount := List.countP_map (p := (· == length)) (f := Prod.fst) (l := lengths.zipIdx)
  rw [List.zipIdx_map_fst] at hcount
  rw [ofLength, List.length_map, ← List.countP_eq_length_filter, List.count, hcount]
  rfl

theorem ofLength_getElem (front back : List ℕ) (length : ℕ) :
    (ofLength (front ++ length :: back) length)[front.count length]? = some front.length := by
  have hsplit : ofLength (front ++ length :: back) length = ofLength front length ++
      front.length :: ((back.zipIdx (front.length + 1)).filter fun (n, _) => n == length).map
        (·.2) := by
    simp [ofLength, List.zipIdx_append, List.zipIdx_cons]
  rw [hsplit, List.getElem?_append_right (length_ofLength front length).le, length_ofLength,
    Nat.sub_self, List.getElem?_cons_zero]

theorem codesOf_ne_nil (h : Fit longest lengths) {code : Bits}
    (hcode : code ∈ codesOf longest lengths) : code ≠ [] := by
  obtain ⟨⟨length, symbol⟩, hmem, rfl⟩ := List.mem_map.1 hcode
  have hpos := (h.bounds length (List.fst_mem_of_mem_zipIdx hmem)).1
  refine List.ne_nil_of_length_pos ?_
  dsimp only
  rw [length_bitsOfNumber]
  exact hpos

theorem range_eq_append {length : ℕ} (hpos : 1 ≤ length) (hlength : length ≤ longest) :
    ∃ later, List.range longest = List.range (length - 1) ++ (length - 1) :: later := by
  obtain ⟨more, rfl⟩ := Nat.exists_eq_add_of_le hlength
  obtain ⟨before, rfl⟩ := Nat.exists_eq_add_of_le' hpos
  exact ⟨(List.range more).map (before + 1 + ·), by simp [List.range_add]⟩

/-- A symbol is where its code leads to. -/
theorem symbols_getElem {front back : List ℕ} {length : ℕ} (hpos : 1 ≤ length)
    (hlength : length ≤ longest) :
    (ofLengths longest (front ++ length :: back)).symbols[
      (countsUpTo (front ++ length :: back) (length - 1)).sum + front.count length]? =
        some front.length := by
  obtain ⟨later, hlater⟩ := range_eq_append hpos hlength
  set lengths := front ++ length :: back with hlengths
  have hsymbols : (ofLengths longest lengths).symbols = ((((List.range (length - 1)).map fun n =>
      ofLength lengths (n + 1)).flatten ++ (ofLength lengths length ++
        (later.map fun n => ofLength lengths (n + 1)).flatten)).toArray) := by
    have hclasses : (ofLengths longest lengths).symbols =
        ((List.range longest).map fun n => ofLength lengths (n + 1)).flatten.toArray := rfl
    rw [hclasses, hlater, List.map_append, List.map_cons, List.flatten_append, List.flatten_cons,
      Nat.sub_add_cancel hpos]
  have hfront : ((List.range (length - 1)).map fun n =>
      ofLength lengths (n + 1)).flatten.length = (countsUpTo lengths (length - 1)).sum := by
    rw [List.length_flatten, List.map_map, countsUpTo]
    exact congrArg List.sum (List.map_congr_left fun n _ => length_ofLength _ _)
  have hplace := ofLength_getElem front back length
  have hlt := (List.getElem?_eq_some_iff.1 hplace).1
  rw [hsymbols, List.getElem?_toArray, List.getElem?_append_right (by omega), hfront,
    Nat.add_sub_cancel_left, List.getElem?_append_left hlt, hplace]

/-- Where codes of the given lengths fit, what starts with a code is read as its symbol. -/
theorem gives_read (h : Fit longest lengths) {symbol : ℕ} {code : Bits}
    (hcode : (codesOf longest lengths)[symbol]? = some code) (rest : Bits) (output : Array UInt8) :
    Gives (ofLengths longest lengths).read ⟨code ++ rest, output⟩ (some symbol)
      ⟨rest, output⟩ := by
  have hsymbol : symbol < lengths.length := by
    have := (List.getElem?_eq_some_iff.1 hcode).1
    simpa [codesOf] using this
  obtain ⟨front, length, back, rfl, rfl⟩ : ∃ front length back,
      lengths = front ++ length :: back ∧ symbol = front.length :=
    ⟨lengths.take symbol, lengths[symbol], lengths.drop (symbol + 1),
      by simp, by simp [hsymbol.le]⟩
  obtain ⟨hpos, hlength⟩ := h.bounds length (by simp)
  rw [codesOf_getElem (fun other hother => (h.bounds other hother).1) hlength,
    Option.some.injEq] at hcode
  subst hcode
  obtain ⟨later, hlater⟩ := range_eq_append hpos hlength
  set lengths := front ++ length :: back with hlengths
  have hcounts : (ofLengths longest lengths).counts = countsUpTo lengths (length - 1) ++
      lengths.count length :: later.map fun n => lengths.count (n + 1) := by
    have hclasses : (ofLengths longest lengths).counts = (List.range longest).map fun n =>
        (ofLength lengths (n + 1)).length := List.map_map
    simp only [hclasses, hlater, length_ofLength, List.map_append, List.map_cons,
      Nat.sub_add_cancel hpos]
    rfl
  have hplace : front.count length < lengths.count length := by
    rw [hlengths, List.count_append, List.count_cons_self]
    omega
  have hbits := numberOfBits_bitsOfNumber length
    (firstCode (countsUpTo lengths (length - 1)) 0 + front.count length)
  rw [Nat.mod_eq_of_lt (firstCode_add_lt h)] at hbits
  have hread := @gives_readFrom (ofLengths longest lengths).symbols
    (countsUpTo lengths (length - 1)) (later.map fun n => lengths.count (n + 1))
    (lengths.count length) 0 0 0 (front.count length)
    (bitsOfNumber length (firstCode (countsUpTo lengths (length - 1)) 0 + front.count length))
    (by rw [length_bitsOfNumber, countsUpTo, List.length_map, List.length_range,
      Nat.sub_add_cancel hpos]) hplace (by rw [hbits, Nat.zero_mul, Nat.zero_add]) rest output
  rw [Nat.zero_add, symbols_getElem hpos hlength, ← hcounts] at hread
  exact hread

end PrefixCode

/-! ### Heaps -/

namespace Heap

variable {heap : Heap}

theorem swapIfInBounds_perm (heap : Heap) (i j : ℕ) :
    (heap.swapIfInBounds i j).toList.Perm heap.toList := by
  rw [Array.swapIfInBounds]
  split_ifs with hi hj
  · exact (Array.swap_perm hi hj).toList
  · rfl
  · rfl

theorem rise_perm (heap : Heap) (fuel place : ℕ) :
    (rise heap fuel place).toList.Perm heap.toList := by
  induction fuel generalizing heap place with
  | zero => rfl
  | succ fuel ih =>
    rw [rise]
    split_ifs
    · exact (ih _ _).trans (swapIfInBounds_perm _ _ _)
    · rfl

theorem sink_perm (heap : Heap) (fuel place : ℕ) :
    (sink heap fuel place).toList.Perm heap.toList := by
  induction fuel generalizing heap place with
  | zero => rfl
  | succ fuel ih =>
    rw [sink]
    generalize (if heap.lighterAt (2 * place + 1 + 1) (2 * place + 1) then 2 * place + 1 + 1
      else 2 * place + 1) = below
    split_ifs
    · rfl
    · exact (ih _ _).trans (swapIfInBounds_perm _ _ _)

theorem insert_perm (heap : Heap) (group : Joined) :
    (heap.insert group).toList.Perm (group :: heap.toList) := by
  refine (rise_perm _ _ _).trans ?_
  rw [Array.toList_push]
  exact List.perm_append_singleton _ _

theorem pop?_eq_none (h : heap.pop? = none) : heap.toList = [] := by
  rw [pop?, Option.map_eq_none_iff, Array.getElem?_eq_none_iff] at h
  exact List.length_eq_zero_iff.1 (Nat.le_zero.1 h)

/-- What is taken out of a heap and what is left are what was in it. -/
theorem pop?_perm {lightest : Joined} {rest : Heap} (h : heap.pop? = some (lightest, rest)) :
    heap.toList.Perm (lightest :: rest.toList) := by
  obtain ⟨first, hfirst, heq⟩ := Option.map_eq_some_iff.1 h
  obtain ⟨rfl, rfl⟩ := Prod.ext_iff.1 heq
  obtain ⟨hpos, hget⟩ := Array.getElem?_eq_some_iff.1 hfirst
  set last := heap.size - 1 with hlast
  have hlt : last < heap.size := by omega
  have hswap : heap.swapIfInBounds 0 last = heap.swap 0 last hpos hlt := by
    rw [Array.swapIfInBounds, dif_pos hpos, dif_pos hlt]
  have hsplit : (heap.swap 0 last hpos hlt).toList =
      (heap.swap 0 last hpos hlt).pop.toList ++ [first] := by
    have hsize : last < (heap.swap 0 last hpos hlt).toList.length := by simpa using hlt
    have hend : (heap.swap 0 last hpos hlt).toList[last] = first := by simp [hget]
    rw [Array.toList_pop, List.dropLast_eq_take, ← hend]
    simp only [Array.length_toList, Array.size_swap, ← hlast, List.take_append_getElem]
    rw [List.take_of_length_le (by simp; omega)]
  have hperm := swapIfInBounds_perm heap 0 last
  rw [hswap, hsplit] at hperm
  rw [hswap]
  refine hperm.symm.trans ((List.perm_append_singleton _ _).trans ?_)
  exact (sink_perm _ _ _).symm.cons first

end Heap

/-! ### Lengths by weights -/

namespace PrefixCode

/-- The part of all codes that those of a group make up. -/
def share (lengths : Array ℕ) (group : Joined) : ℚ :=
  (group.symbols.map fun symbol => (1 / 2 : ℚ) ^ lengths.getD symbol 0).sum

/-- Groups of the symbols below a number. Within each group the codes leave no room. -/
structure Shared (count : ℕ) (lengths : Array ℕ) (groups : List Joined) : Prop where
  size : lengths.size = count
  symbols : (groups.flatMap Joined.symbols).Perm (List.range count)
  share : ∀ group ∈ groups, share lengths group = 1

variable {count : ℕ} {lengths : Array ℕ} {groups : List Joined}

theorem Shared.perm {groups' : List Joined} (h : Shared count lengths groups)
    (hperm : groups.Perm groups') : Shared count lengths groups' :=
  ⟨h.size, (hperm.symm.flatMap_right _).trans h.symbols,
    fun group hgroup => h.share group (hperm.symm.subset hgroup)⟩

/-- Codes that get a bit longer. -/
def longer (symbols : List ℕ) (lengths : Array ℕ) : Array ℕ :=
  symbols.foldl (fun lengths symbol => lengths.modify symbol (· + 1)) lengths

theorem size_longer (symbols : List ℕ) (lengths : Array ℕ) :
    (longer symbols lengths).size = lengths.size := by
  induction symbols generalizing lengths with
  | nil => rfl
  | cons symbol symbols ih => rw [longer, List.foldl_cons, ← longer, ih, Array.size_modify]

theorem getD_modify {place : ℕ} (hplace : place < lengths.size) (other : ℕ) :
    (lengths.modify place (· + 1)).getD other 0 =
      lengths.getD other 0 + if other = place then 1 else 0 := by
  by_cases h : other = place
  · subst h
    simp [Array.getElem?_modify, Array.getElem?_eq_getElem hplace]
  · simp [Array.getElem?_modify, h, Ne.symm h]

theorem getD_longer {symbols : List ℕ} (hnodup : symbols.Nodup)
    (hsymbols : ∀ symbol ∈ symbols, symbol < lengths.size) (symbol : ℕ) :
    (longer symbols lengths).getD symbol 0 =
      lengths.getD symbol 0 + if symbol ∈ symbols then 1 else 0 := by
  induction symbols generalizing lengths with
  | nil => simp [longer]
  | cons first symbols ih =>
    obtain ⟨hfirst, hrest⟩ := List.forall_mem_cons.1 hsymbols
    obtain ⟨hnew, hnodup⟩ := List.nodup_cons.1 hnodup
    rw [longer, List.foldl_cons, ← longer, ih hnodup (by simpa using hrest), getD_modify hfirst]
    by_cases h : symbol = first
    · simp [h, hnew]
    · simp [h]

theorem share_longer_of_subset {symbols : List ℕ} {group : Joined} (hnodup : symbols.Nodup)
    (hsymbols : ∀ symbol ∈ symbols, symbol < lengths.size)
    (hgroup : ∀ symbol ∈ group.symbols, symbol ∈ symbols) :
    share (longer symbols lengths) group = share lengths group / 2 := by
  have heach : share (longer symbols lengths) group =
      (group.symbols.map fun symbol => (1 / 2 : ℚ) ^ lengths.getD symbol 0 * (1 / 2)).sum := by
    refine congrArg List.sum (List.map_congr_left fun symbol h => ?_)
    rw [getD_longer hnodup hsymbols, if_pos (hgroup symbol h), pow_succ]
  rw [heach, List.sum_map_mul_right, ← share, mul_one_div]

theorem share_longer_of_disjoint {symbols : List ℕ} {group : Joined} (hnodup : symbols.Nodup)
    (hsymbols : ∀ symbol ∈ symbols, symbol < lengths.size)
    (hgroup : ∀ symbol ∈ group.symbols, symbol ∉ symbols) :
    share (longer symbols lengths) group = share lengths group := by
  refine congrArg List.sum (List.map_congr_left fun symbol h => ?_)
  rw [getD_longer hnodup hsymbols, if_neg (hgroup symbol h), Nat.add_zero]

theorem share_join (lengths : Array ℕ) (a b : Joined) :
    share lengths (a.join b) = share lengths a + share lengths b := by
  simp [share, Joined.join]

/-- Two groups that are joined share what each of them had. -/
theorem Shared.join {a b : Joined} (h : Shared count lengths (a :: b :: groups)) :
    Shared count (longer (a.join b).symbols lengths) (a.join b :: groups) := by
  have hflat : (a :: b :: groups).flatMap Joined.symbols =
      (a.join b).symbols ++ groups.flatMap Joined.symbols := by
    simp [Joined.join]
  have hsymbols := h.symbols
  rw [hflat] at hsymbols
  have hbelow : ∀ symbol ∈ (a.join b).symbols, symbol < lengths.size := fun symbol hs =>
    h.size.symm ▸ List.mem_range.1 (hsymbols.subset (List.mem_append_left _ hs))
  obtain ⟨hnodup, -, hapart⟩ := List.nodup_append.1 (hsymbols.nodup_iff.2 List.nodup_range)
  obtain ⟨ha, hrest⟩ := List.forall_mem_cons.1 h.share
  obtain ⟨hb, hrest⟩ := List.forall_mem_cons.1 hrest
  refine ⟨(size_longer _ _).trans h.size, hsymbols, List.forall_mem_cons.2 ⟨?_, fun group hg => ?_⟩⟩
  · rw [share_longer_of_subset hnodup hbelow fun _ hs => hs, share_join, ha, hb]
    norm_num
  · rw [share_longer_of_disjoint hnodup hbelow, hrest group hg]
    exact fun symbol hs hmem => hapart symbol hmem symbol (List.mem_flatMap.2 ⟨group, hg, hs⟩) rfl

/-- In the end all symbols are in one group, by induction on the joins. -/
theorem lengthsFrom_shared {heap : Heap} (h : Shared count lengths heap.toList) {fuel : ℕ}
    (hfuel : heap.size ≤ fuel + 1) :
    ∃ groups, groups.length ≤ 1 ∧ Shared count (lengthsFrom fuel heap lengths) groups := by
  induction fuel generalizing heap lengths with
  | zero => exact ⟨heap.toList, hfuel, h⟩
  | succ fuel ih =>
    rw [lengthsFrom]
    cases hfirst : heap.pop? with
    | none => exact ⟨heap.toList, by simp [Heap.pop?_eq_none hfirst], h⟩
    | some taken =>
      obtain ⟨first, heap₁⟩ := taken
      have hperm := Heap.pop?_perm hfirst
      cases hsecond : heap₁.pop? with
      | none =>
        rw [Heap.pop?_eq_none hsecond] at hperm
        exact ⟨[first], le_rfl, by simpa [hsecond] using h.perm hperm⟩
      | some taken =>
        obtain ⟨second, heap₂⟩ := taken
        have hperm' := hperm.trans ((Heap.pop?_perm hsecond).cons first)
        have hjoined := (h.perm hperm').join.perm (Heap.insert_perm heap₂ (first.join second)).symm
        have hsize : (heap₂.insert (first.join second)).size + 1 = heap.size := by
          have hall := hperm'.length_eq
          have hnew := (Heap.insert_perm heap₂ (first.join second)).length_eq
          simp only [List.length_cons, Array.length_toList] at hall hnew
          omega
        obtain ⟨groups, hgroups, hshared⟩ := ih hjoined (by omega)
        refine ⟨groups, hgroups, ?_⟩
        simp only [hsecond]
        exact hshared

/-- The heap of groups of single symbols. -/
theorem heap_perm (weighted : List (ℕ × ℕ)) (heap : Heap) :
    (weighted.foldl (fun heap (weight, symbol) => heap.insert ⟨weight, 0, [symbol]⟩)
      heap).toList.Perm ((weighted.map fun r => ⟨r.1, 0, [r.2]⟩) ++ heap.toList) := by
  induction weighted generalizing heap with
  | nil => rfl
  | cons r weighted ih =>
    refine (ih _).trans ?_
    refine ((Heap.insert_perm heap _).append_left _).trans ?_
    exact List.perm_middle

theorem shared_singles (weights : List ℕ) :
    Shared weights.length (Array.replicate weights.length 0)
      (weights.zipIdx.map fun r => ⟨r.1, 0, [r.2]⟩) := by
  refine ⟨Array.size_replicate, ?_, fun group hgroup => ?_⟩
  · have hsymbols : (weights.zipIdx.map fun r => (⟨r.1, 0, [r.2]⟩ : Joined)).flatMap Joined.symbols =
        weights.zipIdx.map Prod.snd := by
      rw [List.flatMap_map, List.map_eq_flatMap]
    rw [hsymbols, List.zipIdx_map_snd, ← List.range_eq_range']
  · obtain ⟨r, hr, rfl⟩ := List.mem_map.1 hgroup
    have hlt : r.2 < weights.length := by simpa using (List.mem_zipIdx hr).2.1
    simp [share, hlt]

/-- Joined by their weights, the codes of symbols leave no room. -/
theorem sum_lengthsFrom {weights : List ℕ} (hweights : weights ≠ []) {heap : Heap}
    (hheap : heap.toList.Perm (weights.zipIdx.map fun r => ⟨r.1, 0, [r.2]⟩)) :
    let lengths := (lengthsFrom weights.length heap (Array.replicate weights.length 0)).toList
    lengths.length = weights.length ∧ (lengths.map fun length => (1 / 2 : ℚ) ^ length).sum = 1 := by
  intro lengths
  have hsize : heap.size = weights.length := by
    have := hheap.length_eq
    simpa using this
  obtain ⟨groups, hgroups, hshared⟩ :=
    @lengthsFrom_shared _ _ heap ((shared_singles weights).perm hheap.symm) weights.length
      (by omega)
  have hlength : lengths.length = weights.length := hshared.size
  refine ⟨hlength, ?_⟩
  obtain ⟨group, rfl⟩ : ∃ group, groups = [group] := by
    refine List.length_eq_one_iff.1 (le_antisymm hgroups (Nat.pos_of_ne_zero fun h => hweights ?_))
    have hnone := hshared.symbols.length_eq
    rw [List.length_eq_zero_iff.1 h] at hnone
    simpa using hnone.symm
  have hsymbols := hshared.symbols
  rw [List.flatMap_singleton] at hsymbols
  have hall : lengths = (List.range weights.length).map fun symbol => lengths.getD symbol 0 := by
    refine List.ext_getElem (by simp [hlength]) fun i hi _ => ?_
    simp [List.getElem?_eq_getElem hi]
  have hone := hshared.share group (by simp)
  rw [share, (hsymbols.map _).sum_eq] at hone
  rw [hall, List.map_map]
  simpa [Function.comp_def, lengths] using hone

variable {longest : ℕ}

theorem room_eq {length : ℕ} (h : length ≤ longest) :
    (room longest length : ℚ) = 2 ^ longest * (1 / 2) ^ length := by
  rw [room, Nat.cast_pow, Nat.cast_ofNat, pow_sub₀ _ two_ne_zero h, one_div, inv_pow]

/-- More than one code, and no room left: none of them is empty. -/
theorem one_le_of_sum {lengths : List ℕ} (htwo : 2 ≤ lengths.length)
    (hsum : (lengths.map fun length => (1 / 2 : ℚ) ^ length).sum = 1) :
    ∀ length ∈ lengths, 1 ≤ length := by
  intro length hlength
  by_contra hzero
  obtain rfl : length = 0 := by omega
  rw [((List.perm_cons_erase hlength).map _).sum_eq, List.map_cons, List.sum_cons, pow_zero] at hsum
  have hrest : 0 < ((lengths.erase 0).map fun length => (1 / 2 : ℚ) ^ length).sum := by
    refine List.sum_pos _ (fun x hx => ?_) ?_
    · obtain ⟨other, -, rfl⟩ := List.mem_map.1 hx
      positivity
    · rw [Ne, List.map_eq_nil_iff, ← List.length_eq_zero_iff, List.length_erase_of_mem hlength]
      omega
  linarith

theorem fit_of_sum {lengths : List ℕ} (htwo : 2 ≤ lengths.length)
    (hlongest : ∀ length ∈ lengths, length ≤ longest)
    (hsum : (lengths.map fun length => (1 / 2 : ℚ) ^ length).sum = 1) : Fit longest lengths := by
  refine ⟨fun length h => ⟨one_le_of_sum htwo hsum length h, hlongest length h⟩, ?_⟩
  have hall : ((lengths.map (room longest)).sum : ℚ) = 2 ^ longest := by
    rw [Nat.cast_list_sum, List.map_map]
    calc _ = (lengths.map fun length => (2 : ℚ) ^ longest * (1 / 2) ^ length).sum :=
          congrArg List.sum (List.map_congr_left fun length h => room_eq (hlongest length h))
      _ = 2 ^ longest := by rw [List.sum_map_mul_left, hsum, mul_one]
  exact_mod_cast hall.le

/-- Lengths that are chosen for weights are lengths of codes. -/
theorem fit_lengthsOf {weights : List ℕ} (htwo : 2 ≤ weights.length)
    (hroom : weights.length ≤ 2 ^ longest) (hlongest : 1 ≤ longest) (fuel : ℕ) :
    (lengthsOf longest fuel weights).length = weights.length ∧
      Fit longest (lengthsOf longest fuel weights) := by
  induction fuel generalizing weights with
  | zero =>
    refine ⟨List.length_map _, fun length h => ?_, ?_⟩
    · obtain ⟨_, -, rfl⟩ := List.mem_map.1 h
      exact ⟨hlongest, le_rfl⟩
    · simpa [lengthsOf, room] using hroom
  | succ fuel ih =>
    have hempty : weights ≠ [] := List.ne_nil_of_length_pos (by omega)
    rw [lengthsOf]
    dsimp only
    split_ifs with hall
    · have hheap := heap_perm weights.zipIdx #[]
      rw [Array.toList_empty, List.append_nil] at hheap
      obtain ⟨hlength, hsum⟩ := sum_lengthsFrom hempty hheap
      exact ⟨hlength, fit_of_sum (hlength.symm ▸ htwo)
        (by simpa only [List.all_eq_true, decide_eq_true_eq] using hall) hsum⟩
    · obtain ⟨hlength, hfit⟩ := @ih (weights.map fun weight => weight / 2 + 1)
        (by simpa using htwo) (by simpa using hroom)
      exact ⟨by simpa using hlength, hfit⟩

theorem Fit.mono {lengths : List ℕ} {longer : ℕ} (h : Fit longest lengths) (hle : longest ≤ longer) :
    Fit longer lengths := by
  refine ⟨fun length hl => ⟨(h.bounds length hl).1, (h.bounds length hl).2.trans hle⟩, ?_⟩
  have hroom : lengths.map (room longer) =
      lengths.map fun length => 2 ^ (longer - longest) * room longest length := by
    refine List.map_congr_left fun length hl => ?_
    have := (h.bounds length hl).2
    rw [room, room, ← pow_add]
    congr 1
    omega
  rw [hroom, List.sum_map_mul_left]
  calc _ ≤ 2 ^ (longer - longest) * 2 ^ longest := Nat.mul_le_mul_left _ h.room_le
    _ = 2 ^ longer := by rw [← pow_add, Nat.sub_add_cancel hle]

end PrefixCode

end TablePipeline.Compressed
