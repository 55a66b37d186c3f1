import Mathlib
import TablePipeline.Proofs.BlockSorting
import TablePipeline.Proofs.PrefixCodes

/-!
Streams of sorted blocks. Each part of a block is read as it was written, whatever follows it, and
so are the blocks one after the other.
-/
namespace TablePipeline.Compressed

open Unpack PrefixCode

namespace PrefixCode

theorem bitsOfNumber_add (front back n : ℕ) :
    bitsOfNumber (front + back) n = bitsOfNumber front (n / 2 ^ back) ++ bitsOfNumber back n := by
  induction front with
  | zero => simp [bitsOfNumber]
  | succ front ih =>
    rw [Nat.add_right_comm, bitsOfNumber_succ, ih, bitsOfNumber_succ, Nat.testBit_div_two_pow,
      List.cons_append]

theorem bitsOfNumber_mod (width n : ℕ) :
    bitsOfNumber width (n % 2 ^ width) = bitsOfNumber width n := by
  refine List.map_congr_left fun place hplace => ?_
  rw [Nat.testBit_mod_two_pow, decide_eq_true (by simpa using hplace), Bool.true_and]

end PrefixCode

namespace Unpack

variable {α β γ : Type}

/-- Steps for all items of a list, each of which reads what is written for its word. -/
theorem gives_mapM {f : α → Unpack β} {bits : γ → Bits} {value : γ → β} {items : List α}
    {words : List γ} (hlength : items.length = words.length)
    (h : ∀ r ∈ items.zip words, ∀ rest output,
      Gives (f r.1) ⟨bits r.2 ++ rest, output⟩ (value r.2) ⟨rest, output⟩)
    (rest : Bits) (output : Array UInt8) :
    Gives (items.mapM f) ⟨words.flatMap bits ++ rest, output⟩ (words.map value) ⟨rest, output⟩ := by
  induction items generalizing words with
  | nil =>
    obtain rfl := List.length_eq_zero_iff.1 hlength.symm
    exact gives_pure _ _
  | cons item items ih =>
    obtain ⟨word, words, rfl⟩ := List.exists_cons_of_length_eq_add_one hlength.symm
    obtain ⟨hfirst, hrest⟩ := List.forall_mem_cons.1 h
    rw [List.mapM_cons, List.flatMap_cons, List.append_assoc]
    exact gives_bind (hfirst _ _) (gives_bind (ih (by simpa using hlength) hrest) (gives_pure _ _))

theorem gives_emitAll (content : List UInt8) (bits : Bits) (output : Array UInt8) :
    Gives (content.forM emit) ⟨bits, output⟩ PUnit.unit ⟨bits, output ++ content.toArray⟩ := by
  induction content generalizing output with
  | nil => simpa using gives_pure PUnit.unit _
  | cons byte content ih =>
    have hrest := ih (output.push byte)
    have houtput : output.push byte ++ content.toArray = output ++ (byte :: content).toArray := by
      simp
    rw [houtput] at hrest
    exact gives_bind (gives_emit byte bits output) hrest

end Unpack

namespace Bzip2

/-! ### Marks -/

/-- Fail unless the next byte is that of a mark. -/
def expectByte (mark place : ℕ) : Unpack (ForInStep PUnit) := do
  if (← numberDown 8) != mark / Nat.pow 256 place % 256 then throw .badStream
  pure (.yield PUnit.unit)

theorem gives_expectByte (mark place : ℕ) (rest : Bits) (output : Array UInt8) :
    Gives (expectByte mark place)
      ⟨bitsOfNumber 8 (mark / Nat.pow 256 place % 256) ++ rest, output⟩ (.yield PUnit.unit)
      ⟨rest, output⟩ := by
  have hbyte : mark / Nat.pow 256 place % 256 < 2 ^ 8 := Nat.mod_lt _ (by decide)
  refine gives_bind (gives_numberDown hbyte rest output) ?_
  simp only [bne_self_eq_false, Bool.false_eq_true, if_false]
  exact gives_pure _ _

theorem gives_expect (mark count : ℕ) (rest : Bits) (output : Array UInt8) :
    Gives (expect mark (8 * count)) ⟨bitsOfNumber (8 * count) mark ++ rest, output⟩ PUnit.unit
      ⟨rest, output⟩ := by
  have hloop : Gives (forIn (List.range count).reverse PUnit.unit fun place _ =>
      expectByte mark place) ⟨bitsOfNumber (8 * count) mark ++ rest, output⟩ PUnit.unit
        ⟨rest, output⟩ := by
    induction count with
    | zero => exact gives_pure _ _
    | succ count ih =>
      have hpower : (256 : ℕ) ^ count = 2 ^ (8 * count) := by rw [pow_mul]; rfl
      have hbyte : bitsOfNumber 8 (mark / Nat.pow 256 count % 256) =
          bitsOfNumber 8 (mark / 2 ^ (8 * count)) := by
        rw [← hpower]
        exact bitsOfNumber_mod 8 _
      rw [List.range_succ, List.reverse_append, List.reverse_singleton, List.singleton_append,
        List.forIn_cons, Nat.mul_succ, Nat.add_comm, bitsOfNumber_add, List.append_assoc, ← hbyte]
      exact gives_bind (gives_expectByte mark count _ output) ih
  rw [expect, Nat.mul_div_cancel_left _ (by decide)]
  exact gives_bind hloop (gives_pure _ _)

/-! ### Numbers of codes -/

theorem gives_ones {place fuel : ℕ} (hfuel : place < fuel) (rest : Bits) (output : Array UInt8) :
    Gives (ones fuel) ⟨unary place ++ rest, output⟩ place ⟨rest, output⟩ := by
  obtain ⟨fuel, rfl⟩ := Nat.exists_eq_add_one_of_ne_zero (Nat.ne_zero_of_lt hfuel)
  induction place generalizing fuel with
  | zero => exact gives_bind (gives_bit false rest output) (gives_pure _ _)
  | succ place ih =>
    obtain ⟨fuel, rfl⟩ := Nat.exists_eq_add_one_of_ne_zero (show fuel ≠ 0 by omega)
    have hrest := ih fuel (by omega)
    exact gives_bind (gives_bit true (unary place ++ rest) output)
      (gives_bind hrest (gives_pure _ _))

/-- The codes that are chosen, each written as its place among those that were used last. -/
theorem gives_selectors {codeCount : ℕ} {recent chosen : List ℕ}
    (hrecent : recent.length = codeCount) (hchosen : ∀ code ∈ chosen, code ∈ recent) (rest : Bits) (output : Array UInt8) :
    Gives (selectors codeCount chosen.length recent)
      ⟨(codePlaces recent chosen).flatMap unary ++ rest, output⟩ chosen ⟨rest, output⟩ := by
  induction chosen generalizing recent with
  | nil => exact gives_pure _ _
  | cons code chosen ih =>
    have hcode := hchosen code List.mem_cons_self
    have hplace : recent.idxOf code < codeCount := hrecent ▸ List.idxOf_lt_length_of_mem hcode
    have hrest := ih ((length_cons_erase hcode).trans hrecent) (mem_cons_erase hchosen)
    rw [codePlaces, List.flatMap_cons, List.append_assoc]
    exact gives_bind (gives_ones hplace _ output)
      (gives_bind (pick_idxOf hcode _) (gives_bind hrest (gives_pure _ _)))

/-! ### Lengths of codes -/

/-- How the length of a code is written. -/
def changeBits (last length : ℕ) : Bits :=
  (List.replicate (length - last) [true, false]).flatten ++
    (List.replicate (last - length) [true, true]).flatten

theorem length_changeBits (last length : ℕ) :
    (changeBits last length).length = 2 * ((length - last) + (last - length)) := by
  simp [changeBits]
  ring

theorem changeBits_shorter {last length : ℕ} (h : length ≤ last) :
    changeBits (last + 1) length = true :: true :: changeBits last length := by
  rw [changeBits, changeBits, Nat.sub_eq_zero_of_le h, Nat.sub_eq_zero_of_le (Nat.le_succ_of_le h),
    Nat.succ_sub h, List.replicate_succ]
  rfl

theorem changeBits_longer {last length : ℕ} (h : last < length) :
    changeBits last length = true :: false :: changeBits (last + 1) length := by
  have hmore : length - last = length - (last + 1) + 1 := by omega
  rw [changeBits, changeBits, Nat.sub_eq_zero_of_le h.le, Nat.sub_eq_zero_of_le h, hmore,
    List.replicate_succ]
  rfl

/-- A length of a code, by induction on how far it is from the last one. -/
theorem gives_nextLength {last length fuel : ℕ} (hlast : 1 ≤ last ∧ last ≤ 20)
    (hlength : 1 ≤ length ∧ length ≤ 20) (hfuel : (length - last) + (last - length) < fuel)
    (rest : Bits) (output : Array UInt8) :
    Gives (nextLength fuel last) ⟨changeBits last length ++ false :: rest, output⟩ length
      ⟨rest, output⟩ := by
  induction fuel generalizing last with
  | zero => omega
  | succ fuel ih =>
    rw [nextLength, if_neg (by simp; omega)]
    rcases lt_trichotomy length last with h | rfl | h
    · obtain ⟨below, rfl⟩ := Nat.exists_eq_add_one_of_ne_zero (show last ≠ 0 by omega)
      rw [changeBits_shorter (Nat.le_of_lt_succ h)]
      exact gives_bind (gives_bit true _ output) (gives_bind (gives_bit true _ output)
        (ih (by omega) (by omega)))
    · have hbits : changeBits length length = [] := by simp [changeBits]
      rw [hbits]
      exact gives_bind (gives_bit false rest output) (gives_pure _ _)
    · rw [changeBits_longer h]
      exact gives_bind (gives_bit true _ output) (gives_bind (gives_bit false _ output)
        (ih (by omega) (by omega)))

theorem gives_codeLengths {last : ℕ} {lengths : List ℕ} (hlast : 1 ≤ last ∧ last ≤ 20)
    (hlengths : ∀ length ∈ lengths, 1 ≤ length ∧ length ≤ 20) (rest : Bits) (output : Array UInt8) :
    Gives (codeLengths lengths.length last) ⟨lengthBits last lengths ++ rest, output⟩ lengths
      ⟨rest, output⟩ := by
  induction lengths generalizing last with
  | nil => exact gives_pure _ _
  | cons length lengths ih =>
    obtain ⟨hlength, hmore⟩ := List.forall_mem_cons.1 hlengths
    have hbits : lengthBits last (length :: lengths) ++ rest =
        changeBits last length ++ false :: (lengthBits length lengths ++ rest) := by
      simp [lengthBits, changeBits]
    rw [hbits]
    refine gives_bind (gives_bound _) (gives_bind (gives_nextLength hlast hlength ?_ _ output)
      (gives_bind (ih hlength hmore) (gives_pure _ _)))
    have := length_changeBits last length
    simp only [List.length_append]
    omega

/-- A code as it is written. -/
def codeBits (lengths : List ℕ) : Bits :=
  bitsOfNumber 5 (lengths.headD 0) ++ lengthBits (lengths.headD 0) lengths

/-- Codes of a block, each of which is read as it was written. -/
theorem gives_codes {codes : List (List ℕ)} {symbolCount : ℕ}
    (hcodes : ∀ lengths ∈ codes, lengths ≠ [] ∧ lengths.length = symbolCount ∧
      ∀ length ∈ lengths, 1 ≤ length ∧ length ≤ 20) (rest : Bits) (output : Array UInt8) :
    Gives ((List.range codes.length).mapM fun _ => do
        pure (PrefixCode.ofLengths 20 (← codeLengths symbolCount (← numberDown 5))))
      ⟨codes.flatMap codeBits ++ rest, output⟩ (codes.map (PrefixCode.ofLengths 20))
      ⟨rest, output⟩ := by
  refine gives_mapM (by simp) (fun r hr rest output => ?_) rest output
  obtain ⟨hempty, rfl, hbounds⟩ := hcodes r.2 (List.of_mem_zip hr).2
  have hfirst : 1 ≤ r.2.headD 0 ∧ r.2.headD 0 ≤ 20 := by
    obtain ⟨length, lengths, heq⟩ := List.exists_cons_of_ne_nil hempty
    rw [heq] at hbounds ⊢
    exact hbounds length List.mem_cons_self
  rw [codeBits, List.append_assoc]
  exact gives_bind (gives_numberDown (by omega) _ output)
    (gives_bind (gives_codeLengths hfirst hbounds rest output) (gives_pure _ _))

/-! ### Bytes that occur -/

/-- Which bytes occur in a range of sixteen. -/
def rangeBits (used : List ℕ) (high : ℕ) : Bits :=
  (List.range 16).map fun low => used.contains (16 * high + low)

/-- The bytes of a range that occur. -/
def rangeBytes (used : List ℕ) (high : ℕ) : List ℕ :=
  ((List.range 16).filter fun low => used.contains (16 * high + low)).map (16 * high + ·)

theorem usedBits_eq (used : List ℕ) : usedBits used =
    (List.range 16).map (fun high => (rangeBits used high).contains true) ++
      (List.range 16).flatMap fun high =>
        if (rangeBits used high).contains true then rangeBits used high else [] := by
  have hrows : ∀ rows : List Bits, (rows.filter (·.contains true)).flatten =
      rows.flatMap fun row => if row.contains true then row else [] := by
    intro rows
    induction rows with
    | nil => rfl
    | cons row rows ih =>
      rw [List.filter_cons, List.flatMap_cons, ← ih]
      split_ifs <;> simp
  have hused : usedBits used = ((List.range 16).map (rangeBits used)).map (·.contains true) ++
      (((List.range 16).map (rangeBits used)).filter (·.contains true)).flatten := rfl
  rw [hused, hrows, List.map_map, List.flatMap_map]
  rfl

/-- The ranges together are all bytes. -/
theorem flatMap_rangeBytes (used : List ℕ) :
    (List.range 16).flatMap (rangeBytes used) = (List.range 256).filter used.contains := by
  have hall : List.range 256 = (List.range 16).flatMap fun high =>
      (List.range 16).map (16 * high + ·) := by decide +kernel
  rw [hall, List.filter_flatMap]
  refine List.flatMap_congr fun high _ => ?_
  rw [List.filter_map]
  rfl

/-- The bytes of a range, in which there are none unless it is said so. -/
theorem rangeBytes_eq (used : List ℕ) (high : ℕ) :
    (((if (rangeBits used high).contains true then rangeBits used high else []).zipIdx.filter
      (·.1)).map fun (_, low) => 16 * high + low) = rangeBytes used high := by
  have hzip : (((rangeBits used high).zipIdx.filter (·.1)).map fun (_, low) => 16 * high + low) =
      rangeBytes used high := by
    have hindexed : (rangeBits used high).zipIdx =
        (List.range 16).map fun low => (used.contains (16 * high + low), low) := by
      rw [rangeBits, List.zipIdx_map]
      rfl
    rw [hindexed, List.filter_map, List.map_map, rangeBytes]
    rfl
  split_ifs with h
  · exact hzip
  · rw [← hzip]
    have hnone : (rangeBits used high).zipIdx.filter (·.1) = [] := by
      refine List.filter_eq_nil_iff.2 fun r hr htrue => h ?_
      rw [List.contains_iff_mem]
      exact htrue ▸ List.fst_mem_of_mem_zipIdx hr
    rw [hnone]
    rfl

theorem gives_usedBytes {used : List ℕ} (hused : (List.range 256).filter used.contains = used)
    (hne : used ≠ []) (rest : Bits) (output : Array UInt8) :
    Gives usedBytes ⟨usedBits used ++ rest, output⟩ used ⟨rest, output⟩ := by
  set ranges := (List.range 16).map fun high => (rangeBits used high).contains true with hranges
  have htake := gives_take ranges (((List.range 16).flatMap fun high =>
    if (rangeBits used high).contains true then rangeBits used high else []) ++ rest) output
  have hrows : Gives (ranges.zipIdx.mapM fun (isUsed, high) => do
      let lows ← if isUsed then Unpack.take 16 else pure []
      pure ((lows.zipIdx.filter (·.1)).map fun (_, low) => 16 * high + low))
      ⟨((List.range 16).flatMap fun high =>
        if (rangeBits used high).contains true then rangeBits used high else []) ++ rest, output⟩
      ((List.range 16).map (rangeBytes used)) ⟨rest, output⟩ := by
    have hindexed : ranges.zipIdx =
        (List.range 16).map fun high => ((rangeBits used high).contains true, high) := by
      rw [hranges, List.zipIdx_map]
      rfl
    refine gives_mapM (by simp [hindexed]) (fun r hr rest output => ?_) rest output
    have hsame : r.1 = ((rangeBits used r.2).contains true, r.2) := by
      obtain ⟨i, hi, rfl⟩ := List.mem_iff_getElem.1 hr
      simp [hindexed]
    rw [hsame, ← rangeBytes_eq]
    dsimp only
    split_ifs
    · have hlows := gives_take (rangeBits used r.2) rest output
      rw [show (rangeBits used r.2).length = 16 by simp [rangeBits]] at hlows
      exact gives_bind hlows (gives_pure _ _)
    · exact gives_bind (gives_pure _ _) (gives_pure _ _)
  have hsixteen : ranges.length = 16 := by simp [hranges]
  rw [hsixteen] at htake
  rw [usedBits_eq, List.append_assoc]
  refine gives_bind htake (gives_bind hrows ?_)
  have hflat : ((List.range 16).map (rangeBytes used)).flatten = used := by
    rw [← List.flatMap_def, flatMap_rangeBytes, hused]
  rw [hflat, if_neg (by simpa using hne)]
  exact gives_pure _ _

/-! ### Symbols -/

variable {codes : Array PrefixCode} {ending : ℕ} {word : ℕ → ℕ → Bits}

/-- What starts with the word of a symbol is read as the symbol. -/
def Reads (codes : Array PrefixCode) (word : ℕ → ℕ → Bits) (code symbol : ℕ) : Prop :=
  ∀ rest output, Gives ((codes[code]?).getD ⟨[], #[]⟩).read ⟨word code symbol ++ rest, output⟩
    (some symbol) ⟨rest, output⟩

/-- The symbols of a group, or those of it that are left, and what comes after them. -/
theorem gives_group {code fuel left : ℕ} {chosen group more : List ℕ} {rest : Bits}
    {output : Array UInt8} {s : Unpacking} (hread : ∀ symbol ∈ group, Reads codes word code symbol)
    (hgroup : ∀ symbol ∈ group, symbol ≠ ending) (hleft : 0 < left)
    (hlength : group.length ≤ left)
    (hmore : Gives (symbols codes ending fuel (left - group.length)
      (if group.length < left then code :: chosen else chosen)) ⟨rest, output⟩ more s) :
    Gives (symbols codes ending (fuel + group.length) left (code :: chosen))
      ⟨group.flatMap (word code) ++ rest, output⟩ (group ++ more) s := by
  induction group generalizing left with
  | nil => simpa [hleft] using hmore
  | cons symbol group ih =>
    obtain ⟨left, rfl⟩ := Nat.exists_eq_add_one_of_ne_zero hleft.ne'
    obtain ⟨hfirst, hread⟩ := List.forall_mem_cons.1 hread
    obtain ⟨hne, hgroup⟩ := List.forall_mem_cons.1 hgroup
    rw [List.length_cons] at hlength hmore
    rw [List.length_cons, ← Nat.add_assoc, symbols, List.flatMap_cons, List.append_assoc]
    refine gives_bind (hfirst _ output) ?_
    dsimp only
    rw [if_neg (by simpa using hne)]
    refine gives_bind ?_ (gives_pure _ _)
    by_cases hlast : left = 0
    · obtain rfl : group = [] := List.length_eq_zero_iff.1 (by omega)
      simpa [hlast] using hmore
    · rw [if_neg (by simpa using hlast)]
      refine ih hread hgroup (Nat.pos_of_ne_zero hlast) (by omega) ?_
      simpa only [Nat.add_sub_add_right, Nat.add_lt_add_iff_right] using hmore

theorem groups_nil (count : ℕ) : groups count [] = [] := by
  cases count <;> rfl

/-- The symbol that ends a block. -/
theorem gives_ending {code fuel left : ℕ} (hread : Reads codes word code ending) (chosen : List ℕ)
    (rest : Bits) (output : Array UInt8) :
    Gives (symbols codes ending (fuel + 1) (left + 1) (code :: chosen))
      ⟨word code ending ++ rest, output⟩ [] ⟨rest, output⟩ := by
  refine gives_bind (hread rest output) ?_
  simp only [beq_self_eq_true, if_true]
  exact gives_pure _ _

/-- The last group, in which the symbol comes that ends a block. -/
theorem gives_lastGroup {code fuel : ℕ} {body : List ℕ} (hshort : body.length < 50)
    (hfuel : body.length + 1 ≤ fuel) (hbody : ∀ symbol ∈ body, symbol ≠ ending)
    (hread : ∀ symbol ∈ body ++ [ending], Reads codes word code symbol) (chosen : List ℕ)
    (rest : Bits) (output : Array UInt8) :
    Gives (symbols codes ending fuel 50 (code :: chosen))
      ⟨(body ++ [ending]).flatMap (word code) ++ rest, output⟩ body ⟨rest, output⟩ := by
  obtain ⟨spare, hspare⟩ := Nat.exists_eq_add_of_le' hfuel
  obtain ⟨left, hleft⟩ := Nat.exists_eq_add_of_lt hshort
  have hended := @gives_ending codes ending word code spare left (hread ending (by simp)) chosen
    rest output
  have hgroup := @gives_group codes ending word code (spare + 1) 50 chosen body []
    (word code ending ++ rest) output ⟨rest, output⟩
    (fun symbol h => hread symbol (List.mem_append_left _ h)) hbody (by decide) (by omega)
    (by rw [if_pos hshort, show 50 - body.length = left + 1 by omega]; exact hended)
  rw [List.append_nil, show spare + 1 + body.length = fuel by omega] at hgroup
  rw [List.flatMap_append, List.flatMap_singleton, List.append_assoc]
  exact hgroup

/-- Groups of symbols up to the one that ends a block, each in the code that was chosen for it. -/
theorem gives_symbols {count fuel : ℕ} {chosen body : List ℕ} (hcount : body.length < count)
    (hbody : ∀ symbol ∈ body, symbol ≠ ending)
    (hchosen : chosen.length = (groups count (body ++ [ending])).length)
    (hread : ∀ code ∈ chosen, ∀ symbol ∈ body ++ [ending], Reads codes word code symbol)
    (hfuel : 2 * (body.length + 1) ≤ fuel) (rest : Bits) (output : Array UInt8) :
    Gives (symbols codes ending fuel 0 chosen)
      ⟨((groups count (body ++ [ending])).zip chosen).flatMap
        (fun r => r.1.flatMap (word r.2)) ++ rest, output⟩ body ⟨rest, output⟩ := by
  induction count generalizing body chosen fuel with
  | zero => omega
  | succ count ih =>
    rw [groups, if_neg (by simp)] at hchosen ⊢
    obtain ⟨code, chosen, rfl⟩ := List.exists_cons_of_length_eq_add_one hchosen
    obtain ⟨fuel, rfl⟩ := Nat.exists_eq_add_one_of_ne_zero (show fuel ≠ 0 by omega)
    obtain ⟨hfirst, hlater⟩ := List.forall_mem_cons.1 hread
    rw [symbols, List.zip_cons_cons, List.flatMap_cons, List.append_assoc]
    by_cases hshort : body.length < 50
    · -- the last group
      have hwhole : (body ++ [ending]).take 50 = body ++ [ending] :=
        List.take_of_length_le (by simp; omega)
      have hnone : (body ++ [ending]).drop 50 = [] := List.drop_of_length_le (by simp; omega)
      rw [hwhole, hnone, groups_nil, List.zip_nil_left, List.flatMap_nil, List.nil_append]
      exact gives_lastGroup hshort (by omega) hbody hfirst chosen rest output
    · -- a full group
      have htake : (body ++ [ending]).take 50 = body.take 50 :=
        List.take_append_of_le_length (by omega)
      have hdrop : (body ++ [ending]).drop 50 = body.drop 50 ++ [ending] :=
        List.drop_append_of_le_length (by omega)
      have hlength : (body.take 50).length = 50 := by rw [List.length_take]; omega
      rw [hdrop] at hchosen
      obtain ⟨spare, rfl⟩ := Nat.exists_eq_add_of_le' (show 50 ≤ fuel by omega)
      have hrest := @ih spare chosen (body.drop 50) (by rw [List.length_drop]; omega)
        (fun symbol h => hbody symbol (List.mem_of_mem_drop h)) (by simpa using hchosen)
        (fun other h symbol hs => hlater other h symbol ?_) (by rw [List.length_drop]; omega)
      · have hgroup := @gives_group codes ending word code spare 50 chosen (body.take 50)
          (body.drop 50) _ output ⟨rest, output⟩
          (fun symbol h => hfirst symbol (List.mem_append_left _ (List.mem_of_mem_take h)))
          (fun symbol h => hbody symbol (List.mem_of_mem_take h)) (by decide) hlength.le
          (by rw [hlength, if_neg (lt_irrefl _)]; exact hrest)
        rw [htake, hdrop]
        rw [hlength, List.take_append_drop] at hgroup
        exact hgroup
      · rw [← hdrop] at hs
        exact List.mem_of_mem_drop hs

/-! ### Choice of codes -/

theorem bestCode_lt {lengths : List (Array ℕ)} (h : lengths ≠ []) (group : List ℕ) :
    bestCode lengths group < lengths.length := by
  rw [bestCode]
  set costs := lengths.map fun code =>
    group.foldl (fun cost symbol => cost + code.getD symbol 0) 0 with hcosts
  have hne : costs ≠ [] := by simpa [hcosts] using h
  obtain ⟨least, hleast⟩ := Option.isSome_iff_exists.1 (List.isSome_min?_of_ne_nil hne)
  have hlt := List.idxOf_lt_length_of_mem (List.min?_mem hleast)
  rw [hleast, Option.getD_some]
  simpa [hcosts] using hlt

theorem length_weightsOf (symbolCount : ℕ) (symbols : List ℕ) :
    (weightsOf symbolCount symbols).length = symbolCount := by
  have hsize : ∀ weights : Array ℕ,
      (symbols.foldl (fun weights symbol => weights.modify symbol (· + 1)) weights).size =
        weights.size := by
    induction symbols with
    | nil => exact fun _ => rfl
    | cons symbol symbols ih => exact fun weights => (ih _).trans Array.size_modify
  rw [weightsOf, Array.length_toList, hsize, Array.size_replicate]

theorem fit_weightsOf {symbolCount : ℕ} (htwo : 2 ≤ symbolCount) (hroom : symbolCount ≤ 2 ^ 17)
    (symbols : List ℕ) :
    (lengthsOf 17 32 ((weightsOf symbolCount symbols).map fun weight => max weight 1)).length =
        symbolCount ∧
      Fit 20 (lengthsOf 17 32 ((weightsOf symbolCount symbols).map fun weight => max weight 1)) := by
  have hlength : ((weightsOf symbolCount symbols).map fun weight => max weight 1).length =
      symbolCount := by rw [List.length_map, length_weightsOf]
  obtain ⟨hall, hfit⟩ := fit_lengthsOf (hlength.symm ▸ htwo) (hlength.symm ▸ hroom) (by omega) 32
  exact ⟨hall.trans hlength, hfit.mono (by omega)⟩

/-- Codes for so many symbols, and the choice of one of them for each of so many groups. -/
structure Chosen (symbolCount codeCount groupCount : ℕ) (chosen : List ℕ)
    (lengths : List (List ℕ)) : Prop where
  length_chosen : chosen.length = groupCount
  chosen_lt : ∀ code ∈ chosen, code < codeCount
  length_lengths : lengths.length = codeCount
  fit : ∀ code ∈ lengths, code.length = symbolCount ∧ Fit 20 code

/-- Whatever lengths it starts from, refining them gives codes. -/
theorem refine_chosen {symbolCount codeCount : ℕ} (htwo : 2 ≤ symbolCount)
    (hroom : symbolCount ≤ 2 ^ 17) (hcodes : 0 < codeCount) (groups : List (List ℕ)) (times : ℕ)
    {chosen : List ℕ} {lengths : List (List ℕ)} (hlengths : lengths.length = codeCount) :
    Chosen symbolCount codeCount groups.length
      (Bzip2.refine symbolCount groups (times + 1) chosen lengths).1
      (Bzip2.refine symbolCount groups (times + 1) chosen lengths).2 := by
  induction times generalizing chosen lengths with
  | zero =>
    refine ⟨List.length_map _, fun code h => ?_, by simp [Bzip2.refine, hlengths], fun code h => ?_⟩
    · obtain ⟨group, -, rfl⟩ := List.mem_map.1 h
      have hne : lengths.map List.toArray ≠ [] :=
        List.ne_nil_of_length_pos (by simpa [hlengths] using hcodes)
      have hlt := bestCode_lt hne group
      simpa [hlengths] using hlt
    · obtain ⟨_, -, rfl⟩ := List.mem_map.1 h
      exact fit_weightsOf htwo hroom _
  | succ times ih =>
    rw [Bzip2.refine]
    exact ih (by simp [hlengths])

theorem length_firstLengths (codeCount : ℕ) (weights : List ℕ) (part start left : ℕ) :
    (firstLengths codeCount weights part start left).length = part := by
  induction part generalizing start left with
  | zero => rfl
  | succ part ih =>
    rw [firstLengths]
    simp only [List.length_cons, ih]

theorem codeCount_bounds (symbolCount : ℕ) :
    2 ≤ codeCount symbolCount ∧ codeCount symbolCount ≤ 6 := by
  rw [codeCount]
  split_ifs <;> decide

/-! ### Symbols in their codes -/

theorem groups_flatten {count : ℕ} {symbols : List ℕ} (hcount : symbols.length ≤ count) :
    (groups count symbols).flatten = symbols := by
  induction count generalizing symbols with
  | zero => rw [List.length_eq_zero_iff.1 (Nat.le_zero.1 hcount), groups_nil, List.flatten_nil]
  | succ count ih =>
    rw [groups]
    split_ifs with hempty
    · rw [List.isEmpty_iff.1 hempty, List.flatten_nil]
    · rw [List.flatten_cons, ih (by rw [List.length_drop]; omega), List.take_append_drop]

theorem groups_ne_nil {symbols : List ℕ} (h : symbols ≠ []) :
    groups symbols.length symbols ≠ [] := by
  intro hnone
  have hflat := groups_flatten (le_refl symbols.length)
  rw [hnone, List.flatten_nil] at hflat
  exact h hflat.symm

theorem length_groups_le (count : ℕ) (symbols : List ℕ) :
    50 * (groups count symbols).length ≤ symbols.length + 49 := by
  induction count generalizing symbols with
  | zero => simp [groups]
  | succ count ih =>
    rw [groups]
    split_ifs with hempty
    · simp
    · have hpos : 0 < symbols.length := List.length_pos_iff.2 (by simpa using hempty)
      have hrest := ih (symbols.drop 50)
      rw [List.length_drop] at hrest
      rw [List.length_cons]
      omega

/-- No symbol takes less than a bit. -/
theorem length_le_words {groups : List (List ℕ)} {chosen : List ℕ}
    (hlength : chosen.length = groups.length)
    (hword : ∀ code ∈ chosen, ∀ group ∈ groups, ∀ symbol ∈ group, word code symbol ≠ []) :
    groups.flatten.length ≤
      ((groups.zip chosen).flatMap fun r => r.1.flatMap (word r.2)).length := by
  induction groups generalizing chosen with
  | nil => simp
  | cons group groups ih =>
    obtain ⟨code, chosen, rfl⟩ := List.exists_cons_of_length_eq_add_one hlength
    have hrest := ih (by simpa using hlength) fun code hcode group hgroup =>
      hword code (List.mem_cons_of_mem _ hcode) group (List.mem_cons_of_mem _ hgroup)
    have hgroup : group.length ≤ (group.flatMap (word code)).length := by
      have hone := List.length_le_sum_of_one_le (group.map fun symbol => (word code symbol).length)
        (by simpa [Nat.one_le_iff_ne_zero, List.length_eq_zero_iff] using
          hword code List.mem_cons_self group List.mem_cons_self)
      rwa [List.length_map, ← List.length_flatMap] at hone
    rw [List.flatten_cons, List.zip_cons_cons, List.flatMap_cons, List.length_append,
      List.length_append]
    exact Nat.add_le_add hgroup hrest

/-- The word of a symbol in one of several codes. -/
def wordIn (lengths : List (List ℕ)) (code symbol : ℕ) : Bits :=
  ((lengths.map fun code => (codesOf 20 code).toArray).toArray.getD code #[]).getD symbol []

theorem reads_wordIn {symbolCount codeCount groupCount : ℕ} {chosen : List ℕ}
    {lengths : List (List ℕ)} (h : Chosen symbolCount codeCount groupCount chosen lengths)
    {code symbol : ℕ} (hcode : code ∈ chosen) (hsymbol : symbol < symbolCount) :
    Reads (lengths.map (PrefixCode.ofLengths 20)).toArray (wordIn lengths) code symbol ∧
      wordIn lengths code symbol ≠ [] := by
  have hlt : code < lengths.length := h.length_lengths ▸ h.chosen_lt code hcode
  obtain ⟨hlength, hfit⟩ := h.fit lengths[code] (List.getElem_mem hlt)
  have hsymbol' : symbol < (codesOf 20 lengths[code]).length := by
    simpa [codesOf, hlength] using hsymbol
  have hword : (codesOf 20 lengths[code])[symbol]? = some (wordIn lengths code symbol) := by
    have hat : (lengths.map fun code => (codesOf 20 code).toArray).toArray.getD code #[] =
        (codesOf 20 lengths[code]).toArray := by
      simp [Array.getD, hlt]
    rw [wordIn, hat, List.getElem?_eq_getElem hsymbol', Option.some.injEq]
    simp [List.getElem?_eq_getElem hsymbol']
  refine ⟨fun rest output => ?_, ?_⟩
  · have hcodes : ((lengths.map (PrefixCode.ofLengths 20)).toArray[code]?).getD ⟨[], #[]⟩ =
        PrefixCode.ofLengths 20 lengths[code] := by
      simp [hlt]
    rw [hcodes]
    exact gives_read hfit hword rest output
  · exact codesOf_ne_nil hfit (List.mem_of_getElem? hword)

theorem symbolBits_eq {symbolCount : ℕ} (htwo : 2 ≤ symbolCount) (hroom : symbolCount ≤ 2 ^ 17)
    (symbols : List ℕ) :
    ∃ chosen lengths, Chosen symbolCount (codeCount symbols.length)
        (groups symbols.length symbols).length chosen lengths ∧
      symbolBits symbolCount symbols = bitsOfNumber 3 (codeCount symbols.length) ++
        (bitsOfNumber 15 (groups symbols.length symbols).length ++
          ((codePlaces (List.range (codeCount symbols.length)) chosen).flatMap unary ++
            (lengths.flatMap codeBits ++ ((groups symbols.length symbols).zip chosen).flatMap
              fun r => r.1.flatMap (wordIn lengths r.2)))) := by
  have hcount := (codeCount_bounds symbols.length).1
  have hchosen := @refine_chosen symbolCount (codeCount symbols.length) htwo hroom (by omega)
    (groups symbols.length symbols) 3 []
    (firstLengths (codeCount symbols.length) (weightsOf symbolCount symbols)
      (codeCount symbols.length) 0 symbols.length).reverse
    (by rw [List.length_reverse, length_firstLengths])
  refine ⟨_, _, hchosen, ?_⟩
  simp only [symbolBits, List.append_assoc]
  rfl

namespace Chosen

variable {symbolCount codeCount groupCount : ℕ} {chosen : List ℕ} {lengths : List (List ℕ)}

theorem gives_selectors (h : Chosen symbolCount codeCount groupCount chosen lengths) (rest : Bits)
    (output : Array UInt8) :
    Gives (selectors codeCount groupCount (List.range codeCount))
      ⟨(codePlaces (List.range codeCount) chosen).flatMap unary ++ rest, output⟩ chosen
      ⟨rest, output⟩ := by
  rw [← h.length_chosen]
  exact Bzip2.gives_selectors List.length_range
    (fun code hcode => List.mem_range.2 (h.chosen_lt code hcode)) rest output

theorem gives_codes (h : Chosen symbolCount codeCount groupCount chosen lengths)
    (hcount : 0 < symbolCount) (rest : Bits) (output : Array UInt8) :
    Gives ((List.range codeCount).mapM fun _ => do
        pure (PrefixCode.ofLengths 20 (← codeLengths symbolCount (← numberDown 5))))
      ⟨lengths.flatMap codeBits ++ rest, output⟩ (lengths.map (PrefixCode.ofLengths 20))
      ⟨rest, output⟩ := by
  rw [← h.length_lengths]
  refine Bzip2.gives_codes (fun code hcode => ?_) rest output
  obtain ⟨hlength, hfit⟩ := h.fit code hcode
  exact ⟨List.ne_nil_of_length_pos (hlength.symm ▸ hcount), hlength, hfit.bounds⟩

/-- The symbols of a block are read, and there are enough bits for the steps that it takes. -/
theorem gives_symbols {body : List ℕ}
    (h : Chosen (ending + 1) codeCount
      (groups (body ++ [ending]).length (body ++ [ending])).length chosen lengths)
    (hbody : ∀ symbol ∈ body, symbol < ending) (rest : Bits) (output : Array UInt8) :
    let words := ((groups (body ++ [ending]).length (body ++ [ending])).zip chosen).flatMap fun r =>
      r.1.flatMap (wordIn lengths r.2)
    Gives (symbols (lengths.map (PrefixCode.ofLengths 20)).toArray ending
      (2 * ((words ++ rest).length + 1)) 0 chosen) ⟨words ++ rest, output⟩ body ⟨rest, output⟩ := by
  intro words
  have hreads : ∀ code ∈ chosen, ∀ symbol ∈ body ++ [ending],
      Reads (lengths.map (PrefixCode.ofLengths 20)).toArray (wordIn lengths) code symbol ∧
        wordIn lengths code symbol ≠ [] := by
    intro code hcode symbol hsymbol
    refine reads_wordIn h hcode ?_
    rcases List.mem_append.1 hsymbol with hs | hs
    · exact (hbody symbol hs).trans (Nat.lt_succ_self _)
    · exact (List.mem_singleton.1 hs).trans_lt (Nat.lt_succ_self _)
  have hwords : (body ++ [ending]).length ≤ words.length := by
    have hlength := @length_le_words (wordIn lengths)
      (groups (body ++ [ending]).length (body ++ [ending])) chosen h.length_chosen
      fun code hcode group hgroup symbol hsymbol => (hreads code hcode symbol (by
        rw [← groups_flatten (le_refl (body ++ [ending]).length)]
        exact List.mem_flatten.2 ⟨group, hgroup, hsymbol⟩)).2
    rwa [groups_flatten le_rfl] at hlength
  refine Bzip2.gives_symbols (by simp) (fun symbol hs => (hbody symbol hs).ne) h.length_chosen
    (fun code hcode symbol hsymbol => (hreads code hcode symbol hsymbol).1) ?_ rest output
  rw [List.length_append, List.length_singleton] at hwords
  rw [List.length_append]
  omega

end Chosen

/-! ### Blocks -/

theorem checksumStep_lt {polynomial : ℕ} (h : polynomial < 2 ^ 32) (crc : ℕ) (b : Bool) :
    checksumStep polynomial crc b < 2 ^ 32 := by
  have hshifted : crc % 2147483648 * 2 < 2 ^ 32 := by omega
  rw [checksumStep]
  split_ifs
  · exact Nat.xor_lt_two_pow hshifted h
  · exact hshifted

theorem checksum_lt (bits : Bits) : checksum bits < 2 ^ 32 := by
  have hfold : ∀ crc < 2 ^ 32, bits.foldl (checksumStep 0x04C11DB7) crc < 2 ^ 32 := by
    induction bits with
    | nil => exact fun _ h => h
    | cons b bits ih => exact fun crc _ => ih _ (checksumStep_lt (by decide) crc b)
  exact Nat.xor_lt_two_pow (hfold _ (by decide)) (by decide)

/-- The content of runs. -/
def contentOf (runs : List (ℕ × ℕ)) : List UInt8 := (expand runs).map UInt8.ofNat

theorem runsChecksum_eq (runs : List (ℕ × ℕ)) :
    runsChecksum runs = checksum (bitsDownward (contentOf runs)) := by
  have hcontent : contentOf runs = runs.flatMap fun run =>
      List.replicate run.2 (UInt8.ofNat run.1) := by
    rw [contentOf, expand, List.map_flatMap]
    exact List.flatMap_congr fun run _ => List.map_replicate
  rw [hcontent]
  rfl

/-- The bytes that occur in a block. -/
def usedOf (block : Array ℕ) : List ℕ := (List.range 256).filter block.contains

theorem filter_usedOf (block : Array ℕ) :
    (List.range 256).filter (usedOf block).contains = usedOf block := by
  refine List.filter_congr fun b hb => ?_
  rw [usedOf, Bool.eq_iff_iff, List.contains_iff_mem, List.mem_filter]
  exact ⟨fun h => h.2, fun h => ⟨hb, h⟩⟩

theorem length_usedOf_le (block : Array ℕ) : (usedOf block).length ≤ 256 :=
  (List.length_filter_le _ _).trans List.length_range.le

theorem mem_usedOf {plain : Array ℕ} (hplain : ∀ b ∈ plain.toList, b < 256) {b : ℕ}
    (hb : b ∈ plain.toList) : b ∈ usedOf plain :=
  List.mem_filter.2 ⟨List.mem_range.2 (hplain b hb), by simpa using hb⟩

/-- The symbols of a block without the one that ends it. -/
def symbolsOf (block : Array ℕ) : List ℕ := placeSymbols (usedOf block) 0 (lastBytes block)

/-- The part of a block that comes behind its mark. -/
def bodyBits (runs : List (ℕ × ℕ)) : Bits :=
  let plain := (blockBytes runs).toArray
  bitsOfNumber 32 (runsChecksum runs) ++
    false :: (bitsOfNumber 24 ((sortedPlaces plain).idxOf 0) ++ (usedBits (usedOf plain) ++
      symbolBits ((usedOf plain).length + 2) (symbolsOf plain ++ [(usedOf plain).length + 1])))

theorem blockBits_eq (runs : List (ℕ × ℕ)) :
    blockBits runs = bitsOfNumber 48 blockMark ++ bodyBits runs := by
  rw [blockBits, bodyBits]
  simp only [List.append_assoc]
  rfl

/-- Runs that make up a block. -/
structure IsBlock (runs : List (ℕ × ℕ)) : Prop where
  areRuns : AreRuns runs
  ne_nil : runs ≠ []
  room : (blockBytes runs).length ≤ fullSize + 4

/-- A block is unpacked. -/
theorem gives_blockBody {runs : List (ℕ × ℕ)} (h : IsBlock runs) (rest : Bits)
    (output : Array UInt8) :
    Gives (block 9) ⟨bodyBits runs ++ rest, output⟩ (runsChecksum runs)
      ⟨rest, output ++ (contentOf runs).toArray⟩ := by
  set plain := (blockBytes runs).toArray with hplain
  have hbytes : ∀ b ∈ plain.toList, b < 256 := blockBytes_lt h.areRuns
  have hpos : 0 < plain.size := List.length_pos_iff.2 (blockBytes_ne_nil h.areRuns h.ne_nil)
  have hsize : plain.size ≤ 899985 := h.room
  have hlast : ∀ b ∈ lastBytes plain, b ∈ usedOf plain :=
    fun b hb => mem_usedOf hbytes (mem_of_mem_lastBytes hb)
  have hlength := length_lastBytes plain
  have hused : 0 < (usedOf plain).length :=
    List.length_pos_of_mem (mem_usedOf hbytes (List.getElem_mem hpos))
  have husedRoom := length_usedOf_le plain
  obtain ⟨hsmall, hshort⟩ := placeSymbols_le 0 hused hlast
  rw [← symbolsOf] at hsmall hshort
  obtain ⟨chosen, lengths, hchosen, hbits⟩ := @symbolBits_eq ((usedOf plain).length + 2) (by omega)
    (by omega) (symbolsOf plain ++ [(usedOf plain).length + 1])
  have hsymbols := hchosen.gives_symbols (fun symbol hs => (hsmall symbol hs).trans_lt
    (Nat.lt_succ_self _)) rest output
  set all := symbolsOf plain ++ [(usedOf plain).length + 1] with hall
  have hgroups := length_groups_le all.length all
  have hallLength : all.length = (symbolsOf plain).length + 1 := by simp [hall]
  have hsome : groups all.length all ≠ [] := groups_ne_nil (by simp [hall])
  have horigin := idxOf_sortedPlaces_lt hpos
  have hcodeCount := codeCount_bounds all.length
  have hsorted := @gives_sortedBytes 900000 (by decide) (usedOf plain) (lastBytes plain) [] 0 hlast
    (by simp; omega) ⟨rest, output⟩
  rw [← symbolsOf, List.replicate_zero, List.nil_append, List.append_nil] at hsorted
  have hcontent : expandRuns 0 0 plain.toList = expand runs :=
    expandRuns_blockBytes h.areRuns (by decide) (.inl rfl)
  have hchecksum : checksum (bitsDownward ((expand runs).map UInt8.ofNat)) = runsChecksum runs :=
    (runsChecksum_eq runs).symm
  -- what the block states
  rw [bodyBits, ← hplain, ← hall, hbits]
  simp only [List.append_assoc, List.cons_append]
  refine gives_bind (gives_numberDown (hchecksum ▸ checksum_lt _) _ output)
    (gives_bind (gives_bit false _ output) (gives_bind (gives_numberDown (by omega) _ output) ?_))
  rw [if_neg (by omega)]
  refine gives_bind (gives_usedBytes (filter_usedOf plain) (List.ne_nil_of_length_pos hused) _
    output) (gives_bind (gives_numberDown (by omega) _ output) ?_)
  rw [if_neg (by simp; omega)]
  refine gives_bind (gives_numberDown (by omega) _ output) ?_
  rw [if_neg (by simpa using hsome)]
  -- its codes and its symbols
  refine gives_bind (hchosen.gives_selectors _ output) (gives_bind
    (hchosen.gives_codes (Nat.succ_pos _) _ output) (gives_bind (gives_bound _)
      (gives_bind hsymbols (gives_bind hsorted ?_))))
  -- its bytes
  rw [List.reverse_reverse, if_neg (by simp; omega), follow_origin hbytes hpos, hcontent]
  refine gives_bind (gives_emitAll (contentOf runs) rest output) ?_
  rw [hchecksum, if_neg (by simp)]
  exact gives_pure _ _

/-! ### Streams -/

theorem isBlock_blockRuns {content : List ℕ} (hcontent : ∀ b ∈ content, b < 256) :
    ∀ part ∈ blockRuns 0 [] (runs content), IsBlock part := by
  intro part hpart
  obtain ⟨hall, hblocks⟩ := @blockRuns_spec [] (runs content) 0 rfl (Nat.zero_le _)
  obtain ⟨hne, hroom⟩ := hblocks part hpart
  refine ⟨(areRuns_runs hcontent).part ?_, hne, hroom⟩
  rw [List.reverse_nil, List.nil_append] at hall
  exact hall ▸ List.infix_of_mem_flatten hpart

theorem combined_lt {crc part : ℕ} (hcrc : crc < 2 ^ 32) (hpart : part < 2 ^ 32) :
    combined crc part < 2 ^ 32 :=
  Nat.xor_lt_two_pow (by omega) hpart

/-- The checksum of a stream. -/
def streamChecksum (parts : List (List (ℕ × ℕ))) (crc : ℕ) : ℕ :=
  parts.foldl (fun crc part => combined crc (runsChecksum part)) crc

/-- Blocks up to the end of a stream, by induction on them. -/
theorem gives_blocks {parts : List (List (ℕ × ℕ))} (hparts : ∀ part ∈ parts, IsBlock part)
    {crc fuel : ℕ} (hcrc : crc < 2 ^ 32) (hfuel : parts.length < fuel) {padding : Bits}
    (hpadding : padding.length < 8) (output : Array UInt8) :
    Gives (blocks 9 fuel crc)
      ⟨parts.flatMap blockBits ++ (bitsOfNumber 48 endMark ++
        (bitsOfNumber 32 (streamChecksum parts crc) ++ padding)), output⟩ ()
      ⟨[], output ++ (parts.flatMap contentOf).toArray⟩ := by
  obtain ⟨fuel, rfl⟩ := Nat.exists_eq_add_one_of_ne_zero (Nat.ne_zero_of_lt hfuel)
  induction parts generalizing crc fuel output with
  | nil =>
    have hend : bitsOfNumber 48 endMark = bitsOfNumber 8 0x17 ++ bitsOfNumber 40 endMark :=
      bitsOfNumber_add 8 40 endMark
    have hdone := gives_align padding output
    rw [Nat.mod_eq_of_lt hpadding, List.drop_length] at hdone
    rw [List.flatMap_nil, List.nil_append, hend, List.append_assoc, List.flatMap_nil,
      Array.append_empty]
    refine gives_bind (gives_numberDown (by decide) _ output) ?_
    rw [if_pos (by decide)]
    refine gives_bind (gives_expect endMark 5 _ output)
      (gives_bind (gives_numberDown hcrc _ output) ?_)
    rw [if_neg (by simp)]
    exact hdone
  | cons part parts ih =>
    obtain ⟨hpart, hparts⟩ := List.forall_mem_cons.1 hparts
    obtain ⟨fuel, rfl⟩ := Nat.exists_eq_add_one_of_ne_zero (show fuel ≠ 0 by simp at hfuel; omega)
    have hmark : bitsOfNumber 48 blockMark = bitsOfNumber 8 0x31 ++ bitsOfNumber 40 blockMark :=
      bitsOfNumber_add 8 40 blockMark
    have hrest := ih hparts (combined_lt hcrc (runsChecksum_eq part ▸ checksum_lt _))
      (output ++ (contentOf part).toArray) fuel (by simpa using hfuel)
    rw [List.flatMap_cons, blockBits_eq, hmark, List.append_assoc, List.append_assoc,
      List.append_assoc]
    refine gives_bind (gives_numberDown (by decide) _ output) ?_
    rw [if_neg (by decide), if_neg (by decide)]
    refine gives_bind (gives_expect blockMark 5 _ output)
      (gives_bind (gives_blockBody hpart _ output) ?_)
    have houtput : output ++ (contentOf part).toArray ++ (parts.flatMap contentOf).toArray =
        output ++ ((part :: parts).flatMap contentOf).toArray := by
      simp
    rw [houtput] at hrest
    exact hrest

/-- The bits of a stream. -/
def streamBits (parts : List (List (ℕ × ℕ))) : Bits :=
  bitsOfNumber 32 0x425A6839 ++ (parts.flatMap blockBits ++ (bitsOfNumber 48 endMark ++
    bitsOfNumber 32 (streamChecksum parts 0)))

/-- A whole stream is unpacked. What fills up its last byte is skipped. -/
theorem gives_stream {parts : List (List (ℕ × ℕ))} (hparts : ∀ part ∈ parts, IsBlock part)
    {padding : Bits} (hpadding : padding.length < 8) (output : Array UInt8) :
    Gives stream ⟨streamBits parts ++ padding, output⟩ ()
      ⟨[], output ++ (parts.flatMap contentOf).toArray⟩ := by
  have hmark : bitsOfNumber 32 0x425A6839 = bitsOfNumber 24 0x425A68 ++ bitsOfNumber 8 57 := by
    decide
  have hblocks : parts.length ≤ (parts.flatMap blockBits).length := by
    have hone := List.length_le_sum_of_one_le (parts.map fun part => (blockBits part).length)
      (by simpa [blockBits_eq, length_bitsOfNumber] using
        fun _ _ => Nat.le_add_right_of_le (by decide))
    rwa [List.length_map, ← List.length_flatMap] at hone
  rw [streamBits, hmark]
  simp only [List.append_assoc]
  refine gives_bind (gives_expect 0x425A68 3 _ output)
    (gives_bind (gives_numberDown (by decide) _ output) ?_)
  rw [if_neg (by decide)]
  refine gives_bind (gives_bound _) (gives_blocks hparts (by decide) ?_ hpadding output)
  simp only [List.length_append]
  omega

end Bzip2

/-! ### Bits in bytes -/

namespace PrefixCode

/-- Bits are those of the number that they make. -/
theorem bitsOfNumber_numberOfBits (bits : Bits) :
    bitsOfNumber bits.length (numberOfBits bits) = bits := by
  induction bits with
  | nil => rfl
  | cons b bits ih =>
    have hlt := numberOfBits_lt bits
    have hrest :
        bitsOfNumber bits.length (b.toNat * 2 ^ bits.length + numberOfBits bits) = bits := by
      rw [← bitsOfNumber_mod, Nat.mul_add_mod_of_lt hlt, ih]
    have hfirst : (b.toNat * 2 ^ bits.length + numberOfBits bits).testBit bits.length = b := by
      rw [Nat.mul_comm, Nat.testBit_two_pow_mul_add _ hlt, if_neg (lt_irrefl _), Nat.sub_self]
      cases b <;> rfl
    rw [List.length_cons, bitsOfNumber_succ, numberOfBits_cons, hfirst, hrest]

end PrefixCode

namespace Bzip2

/-- The first eight bits, filled up with zeros. -/
def firstByte (bits : Bits) : Bits := (List.range 8).map fun place => bits.getD place false

theorem length_firstByte (bits : Bits) : (firstByte bits).length = 8 := by simp [firstByte]

theorem firstByte_eq (bits : Bits) :
    firstByte bits = bits.take 8 ++ List.replicate (8 - bits.length) false := by
  refine List.ext_getElem (by simp [firstByte]; omega) fun place hplace _ => ?_
  rw [length_firstByte] at hplace
  by_cases h : place < bits.length
  · simp [firstByte, h, hplace]
  · simp [firstByte, List.getElem_append, h]

theorem bitsOfByte_firstByte (bits : Bits) :
    (bitsOfByte (UInt8.ofNat (numberOfBits (firstByte bits)))).reverse = firstByte bits := by
  have hlt := numberOfBits_lt (firstByte bits)
  have hback := bitsOfNumber_numberOfBits (firstByte bits)
  rw [length_firstByte] at hlt hback
  have hbyte : (UInt8.ofNat (numberOfBits (firstByte bits))).toNat =
      numberOfBits (firstByte bits) := by
    rw [UInt8.toNat_ofNat', Nat.mod_eq_of_lt hlt]
  rw [bitsOfByte, hbyte, ← List.map_reverse]
  exact hback

theorem bytesOfBits_succ (count : ℕ) {bits : Bits} (hne : bits ≠ []) :
    bytesOfBits (count + 1) bits =
      UInt8.ofNat (numberOfBits (firstByte bits)) :: bytesOfBits count (bits.drop 8) := by
  have hnumber : numberOfBits (firstByte bits) =
      (List.range 8).foldl (fun n place => 2 * n + (bits.getD place false).toNat) 0 := by
    rw [numberOfBits, firstByte, List.foldl_map]
  rw [bytesOfBits, if_neg (by simpa using hne), hnumber]

/-- Bits that are cut into bytes come back, with less than a byte of padding. -/
theorem bitsDownward_bytesOfBits {count : ℕ} {bits : Bits} (hcount : bits.length ≤ count) :
    ∃ padding : Bits, padding.length < 8 ∧
      bitsDownward (bytesOfBits count bits) = bits ++ padding := by
  induction count generalizing bits with
  | zero =>
    obtain rfl := List.length_eq_zero_iff.1 (Nat.le_zero.1 hcount)
    exact ⟨[], by decide, rfl⟩
  | succ count ih =>
    by_cases hne : bits = []
    · subst hne
      exact ⟨[], by decide, rfl⟩
    · have hpos := List.length_pos_iff.2 hne
      rw [bytesOfBits_succ count hne, bitsDownward, List.flatMap_cons, bitsOfByte_firstByte,
        ← bitsDownward, firstByte_eq]
      by_cases hlong : 8 ≤ bits.length
      · obtain ⟨padding, hpadding, hrest⟩ := @ih (bits.drop 8) (by rw [List.length_drop]; omega)
        refine ⟨padding, hpadding, ?_⟩
        rw [hrest, Nat.sub_eq_zero_of_le hlong, List.replicate_zero, List.append_nil,
          ← List.append_assoc, List.take_append_drop]
      · have hnone : bitsDownward (bytesOfBits count (bits.drop 8)) = [] := by
          rw [List.drop_of_length_le (by omega)]
          cases count <;> rfl
        rw [hnone, List.append_nil, List.take_of_length_le (by omega)]
        exact ⟨_, by rw [List.length_replicate]; omega, rfl⟩

theorem pack_eq (content : List UInt8) :
    pack content =
      let bits := streamBits (blockRuns 0 [] (runs (content.map UInt8.toNat)))
      bytesOfBits bits.length bits := by
  rw [pack]
  simp only [List.append_assoc]
  rfl

/-- The blocks of a content hold all of it. -/
theorem flatMap_contentOf (content : List UInt8) :
    (blockRuns 0 [] (runs (content.map UInt8.toNat))).flatMap contentOf = content := by
  have hall := (@blockRuns_spec [] (runs (content.map UInt8.toNat)) 0 rfl (Nat.zero_le _)).1
  have hexpand : ∀ parts : List (List (ℕ × ℕ)),
      parts.flatMap contentOf = (expand parts.flatten).map UInt8.ofNat := by
    intro parts
    rw [expand, List.flatten_eq_flatMap, List.flatMap_assoc, List.map_flatMap]
    rfl
  have hback : UInt8.ofNat ∘ UInt8.toNat = id := funext fun _ => UInt8.ofNat_toNat
  rw [hexpand, hall, List.reverse_nil, List.nil_append, expand_runs, List.map_map, hback,
    List.map_id]

/-- What a stream holds comes back. -/
theorem unpack_pack (content : List UInt8) : unpack (pack content) = (pieces content, none) := by
  set parts := blockRuns 0 [] (runs (content.map UInt8.toNat)) with hparts
  have hcontent : ∀ b ∈ content.map UInt8.toNat, b < 256 := by
    intro b hb
    obtain ⟨byte, -, rfl⟩ := List.mem_map.1 hb
    exact byte.toNat_lt
  obtain ⟨padding, hpadding, hbytes⟩ := bitsDownward_bytesOfBits (le_refl (streamBits parts).length)
  have hrun := gives_stream (isBlock_blockRuns hcontent) hpadding #[]
  rw [flatMap_contentOf, Array.empty_append, ← hparts, Gives] at hrun
  have hended : ∀ fuel, unpackFrom fuel false [] = ([], none) := by
    intro fuel
    cases fuel <;> rfl
  rw [unpack, pack_eq, ← hparts]
  dsimp only
  rw [hbytes, unpackFrom]
  simp only [hrun, hended, Unpacking.pieces, Bool.not_true, Bool.and_false, Bool.false_eq_true,
    if_false, List.append_nil]

end Bzip2

end TablePipeline.Compressed
