import Mathlib
import TablePipeline.Compressed.Gzip
import TablePipeline.Proofs.Unpacking

/-!
Members of stored blocks. A block says how many bytes follow, and a member what their checksum and
their number are, which is what is found when they are read.
-/
namespace TablePipeline.Compressed

open Unpack

namespace Inflate

theorem bitsUpward_cons (byte : UInt8) (bytes : List UInt8) :
    bitsUpward (byte :: bytes) = bitsOfByte byte ++ bitsUpward bytes :=
  List.flatMap_cons

theorem bitsUpward_append (front back : List UInt8) :
    bitsUpward (front ++ back) = bitsUpward front ++ bitsUpward back :=
  List.flatMap_append

/-- Emit the byte that is read. -/
def passByte : Unpack (ForInStep PUnit) := do
  emit (UInt8.ofNat (← numberUp 8))
  pure (.yield PUnit.unit)

theorem gives_passByte (byte : UInt8) (rest : Bits) (output : Array UInt8) :
    Gives passByte ⟨bitsOfByte byte ++ rest, output⟩ (.yield PUnit.unit)
      ⟨rest, output.push byte⟩ := by
  have hemit : Gives (emit (UInt8.ofNat byte.toNat)) ⟨rest, output⟩ () ⟨rest, output.push byte⟩ := by
    rw [UInt8.ofNat_toNat]
    exact gives_emit byte rest output
  exact gives_bind (gives_byte byte rest output) (gives_bind hemit (gives_pure _ _))

/-- Bytes that are emitted as they are read, by induction on them. -/
theorem gives_bytes (bytes : List UInt8) (rest : Bits) (output : Array UInt8) {places : List ℕ}
    (hplaces : places.length = bytes.length) :
    Gives (forIn places PUnit.unit fun _ _ => passByte) ⟨bitsUpward bytes ++ rest, output⟩
      PUnit.unit ⟨rest, output ++ bytes.toArray⟩ := by
  induction bytes generalizing output places with
  | nil =>
    obtain rfl := List.length_eq_zero_iff.1 hplaces
    rw [Array.append_empty]
    exact gives_pure _ _
  | cons byte bytes ih =>
    obtain ⟨place, places, rfl⟩ := List.exists_cons_of_length_eq_add_one hplaces
    have hrest := ih (output.push byte) (by simpa using hplaces)
    have houtput : output.push byte ++ bytes.toArray = output ++ (byte :: bytes).toArray := by
      simp
    rw [houtput] at hrest
    rw [bitsUpward_cons, List.append_assoc, List.forIn_cons]
    exact gives_bind (gives_passByte byte _ output) hrest

/-- A number in two bytes. -/
theorem gives_number {n : ℕ} (hn : n ≤ 65535) (rest : Bits) (output : Array UInt8) :
    Gives (numberUp 16) ⟨bitsUpward (Gzip.numberBytes 2 n) ++ rest, output⟩ n ⟨rest, output⟩ := by
  have hbytes : Gzip.numberBytes 2 n = [UInt8.ofNat (n % 256), UInt8.ofNat (n / 256 % 256)] := by
    simp [Gzip.numberBytes, List.range_succ]
  have hvalue : (UInt8.ofNat (n % 256)).toNat + 256 * (UInt8.ofNat (n / 256 % 256)).toNat = n := by
    simp only [UInt8.toNat_ofNat']
    omega
  have htwo := gives_two (UInt8.ofNat (n % 256)) (UInt8.ofNat (n / 256 % 256)) rest output
  rw [hvalue] at htwo
  rw [hbytes, bitsUpward_cons, bitsUpward_cons, bitsUpward, List.flatMap_nil, List.append_nil,
    List.append_assoc]
  exact htwo

/-- The bytes of a block that stand for themselves. -/
theorem gives_stored {bits rest : Bits} {bytes : List UInt8}
    (hsize : bytes.length ≤ Gzip.storedSize)
    (hbits : bits.drop (bits.length % 8) = bitsUpward (Gzip.numberBytes 2 bytes.length ++
      Gzip.numberBytes 2 (65535 - bytes.length) ++ bytes) ++ rest)
    (output : Array UInt8) :
    Gives stored ⟨bits, output⟩ () ⟨rest, output ++ bytes.toArray⟩ := by
  have halign := gives_align bits output
  rw [hbits] at halign
  rw [bitsUpward_append, bitsUpward_append, List.append_assoc, List.append_assoc] at halign
  have hlength : bytes.length ≤ 65535 := hsize
  refine gives_bind halign (gives_bind (gives_number hlength _ _)
    (gives_bind (gives_number (by omega) _ _) ?_))
  rw [if_neg (by simp; omega)]
  exact gives_bind (gives_bytes bytes rest output (by simp)) (gives_pure _ _)

theorem length_bitsUpward (bytes : List UInt8) : (bitsUpward bytes).length = 8 * bytes.length := by
  induction bytes with
  | nil => rfl
  | cons byte bytes ih =>
    rw [bitsUpward_cons, List.length_append, length_bitsOfByte, ih, List.length_cons]
    omega

/-- A stored block, and what comes after it unless it is the last one. -/
theorem gives_block {isLast : Bool} {bytes tail : List UInt8} {output : Array UInt8} {fuel : ℕ}
    {s : Unpacking} (hsize : bytes.length ≤ Gzip.storedSize)
    (hnext : Gives (if !isLast then blocks fuel else pure ())
      ⟨bitsUpward tail, output ++ bytes.toArray⟩ () s) :
    Gives (blocks (fuel + 1)) ⟨bitsUpward (Gzip.storedBlock isLast bytes ++ tail), output⟩ () s := by
  have hbits : bitsUpward (Gzip.storedBlock isLast bytes ++ tail) =
      isLast :: ([false, false] ++ (List.replicate 5 false ++
        (bitsUpward (Gzip.numberBytes 2 bytes.length ++
          Gzip.numberBytes 2 (65535 - bytes.length) ++ bytes) ++ bitsUpward tail))) := by
    have hfirst : bitsOfByte (UInt8.ofNat isLast.toNat) =
        isLast :: ([false, false] ++ List.replicate 5 false) := by
      cases isLast <;> decide
    rw [bitsUpward_append, Gzip.storedBlock, List.cons_append, List.cons_append, bitsUpward_cons,
      hfirst]
    simp
  have halign : (List.replicate 5 false ++ (bitsUpward (Gzip.numberBytes 2 bytes.length ++
      Gzip.numberBytes 2 (65535 - bytes.length) ++ bytes) ++ bitsUpward tail)).length % 8 = 5 := by
    simp only [List.length_append, List.length_replicate, length_bitsUpward]
    omega
  have hzero : Gives (numberUp 2) ⟨[false, false] ++ (List.replicate 5 false ++
      (bitsUpward (Gzip.numberBytes 2 bytes.length ++
        Gzip.numberBytes 2 (65535 - bytes.length) ++ bytes) ++ bitsUpward tail)), output⟩ 0
      ⟨List.replicate 5 false ++ (bitsUpward (Gzip.numberBytes 2 bytes.length ++
        Gzip.numberBytes 2 (65535 - bytes.length) ++ bytes) ++ bitsUpward tail), output⟩ :=
    gives_bind (gives_take [false, false] _ output) (gives_pure _ _)
  rw [hbits]
  refine gives_bind (gives_bit isLast _ output) (gives_bind hzero ?_)
  refine gives_bind (gives_stored hsize (by rw [halign]; rfl) output) hnext

/-- A member's blocks, by induction on them. -/
theorem gives_blocks {fuel : ℕ} {bytes : List UInt8}
    (hfuel : bytes.length ≤ (fuel + 1) * Gzip.storedSize)
    (tail : List UInt8) (output : Array UInt8) {steps : ℕ} (hsteps : fuel < steps) :
    Gives (blocks steps) ⟨bitsUpward (Gzip.storedBlocks fuel bytes ++ tail), output⟩ ()
      ⟨bitsUpward tail, output ++ bytes.toArray⟩ := by
  obtain ⟨steps, rfl⟩ := Nat.exists_eq_add_one_of_ne_zero (Nat.ne_zero_of_lt hsteps)
  induction fuel generalizing bytes output steps with
  | zero =>
    have hsize : bytes.length ≤ Gzip.storedSize := by simpa using hfuel
    rw [Gzip.storedBlocks, List.take_of_length_le hsize]
    exact gives_block hsize (gives_pure _ _)
  | succ fuel ih =>
    rw [Gzip.storedBlocks]
    split_ifs with hsize
    · exact gives_block hsize (gives_pure _ _)
    · obtain ⟨steps, rfl⟩ := Nat.exists_eq_add_one_of_ne_zero (show steps ≠ 0 by omega)
      have hrest := @ih (bytes.drop Gzip.storedSize)
        (by rw [List.length_drop]; rw [Nat.succ_mul] at hfuel; omega)
        (output ++ (bytes.take Gzip.storedSize).toArray) steps (by omega)
      have houtput : output ++ (bytes.take Gzip.storedSize).toArray ++
          (bytes.drop Gzip.storedSize).toArray = output ++ bytes.toArray := by
        have hjoin : (bytes.take Gzip.storedSize).toArray ++ (bytes.drop Gzip.storedSize).toArray =
            bytes.toArray := by simp
        rw [Array.append_assoc, hjoin]
      rw [houtput] at hrest
      rw [List.append_assoc]
      exact gives_block (List.length_take_le _ _) hrest

end Inflate


namespace Gzip

/-- A number is what its bytes make. -/
theorem numberOf_numberBytes {width n : ℕ} (hn : n < 256 ^ width) :
    numberOf (numberBytes width n) = n := by
  induction width generalizing n with
  | zero =>
    obtain rfl : n = 0 := by simpa using hn
    rfl
  | succ width ih =>
    have hbytes : numberBytes (width + 1) n =
        UInt8.ofNat (n % 256) :: numberBytes width (n / 256) := by
      simp [numberBytes, List.range_succ_eq_map, Nat.div_div_eq_div_mul, pow_succ']
    have hrest := ih (n := n / 256) (by rw [pow_succ] at hn; omega)
    rw [numberOf] at hrest
    rw [hbytes, numberOf, List.foldr_cons, hrest, UInt8.toNat_ofNat']
    omega

theorem length_numberBytes (width n : ℕ) : (numberBytes width n).length = width := by
  simp [numberBytes]

theorem foldl_bits_lt (places : List ℕ) (n r : ℕ) :
    places.foldl (fun r place => 2 * r + (n.testBit place).toNat) r <
      (r + 1) * 2 ^ places.length := by
  induction places generalizing r with
  | nil => simp
  | cons place places ih =>
    have hbit : (n.testBit place).toNat ≤ 1 := Bool.toNat_le _
    calc _ < (2 * r + (n.testBit place).toNat + 1) * 2 ^ places.length := ih _
      _ ≤ (2 * (r + 1)) * 2 ^ places.length := Nat.mul_le_mul_right _ (by omega)
      _ = (r + 1) * 2 ^ (place :: places).length := by rw [List.length_cons, pow_succ]; ring

theorem checksumOf_lt (bytes : List UInt8) : checksumOf bytes < 256 ^ 4 := by
  have h := foldl_bits_lt (List.range 32) (checksum (bitsUpward bytes)) 0
  rw [List.length_range] at h
  exact h

/-- The checksum and the length at the end of a member. -/
def trailer (content : List UInt8) : List UInt8 :=
  numberBytes 4 (checksumOf content) ++ numberBytes 4 (content.length % 4294967296)

theorem length_trailer (content : List UInt8) : (trailer content).length = 8 := by
  simp [trailer, length_numberBytes]

/-- They are those of the content. -/
theorem afterTrailer_trailer (content : List UInt8) :
    afterTrailer content (trailer content) = .ok [] := by
  have hskip : skip 8 (trailer content) = .ok [] := by
    rw [skip, if_neg (by rw [length_trailer]; omega),
      List.drop_of_length_le (length_trailer content).le]
  have hchecksum : (trailer content).take 4 = numberBytes 4 (checksumOf content) :=
    List.take_left' (length_numberBytes 4 _)
  have hsize : ((trailer content).drop 4).take 4 = numberBytes 4 (content.length % 4294967296) := by
    rw [trailer, List.drop_left' (length_numberBytes 4 _),
      List.take_of_length_le (length_numberBytes 4 _).le]
  have hlength : content.length % 4294967296 < 256 ^ 4 := by omega
  rw [afterTrailer, hskip]
  simp [hchecksum, hsize, numberOf_numberBytes (checksumOf_lt content), numberOf_numberBytes hlength,
    bind, Except.bind]

theorem length_le_storedBlocks {fuel : ℕ} {bytes : List UInt8}
    (hfuel : bytes.length ≤ (fuel + 1) * storedSize) :
    bytes.length ≤ (storedBlocks fuel bytes).length := by
  have hblock : ∀ isLast bytes, (bytes : List UInt8).length ≤ (storedBlock isLast bytes).length := by
    intro isLast bytes
    simp only [storedBlock, List.length_append, List.length_cons]
    omega
  induction fuel generalizing bytes with
  | zero =>
    rw [storedBlocks, List.take_of_length_le (by simpa using hfuel)]
    exact hblock true bytes
  | succ fuel ih =>
    rw [storedBlocks]
    split_ifs with hsize
    · exact hblock true bytes
    · have hfirst := hblock false (bytes.take storedSize)
      have hrest := @ih (bytes.drop storedSize)
        (by rw [List.length_drop]; rw [Nat.succ_mul] at hfuel; omega)
      rw [List.length_take] at hfirst
      rw [List.length_drop] at hrest
      rw [List.length_append]
      omega

/-- The blocks of a member are unpacked, and what is left is its trailer. -/
theorem run_stream (content : List UInt8) :
    Inflate.stream.run ⟨bitsUpward
        (storedBlocks (content.length / storedSize) content ++ trailer content), #[]⟩ =
      (.ok (), ⟨bitsUpward (trailer content), content.toArray⟩) := by
  have hfuel : content.length ≤ (content.length / storedSize + 1) * storedSize := by
    have := Nat.lt_div_mul_add (a := content.length) (show 0 < storedSize by decide)
    rw [Nat.succ_mul]
    omega
  have hsteps : content.length / storedSize < (bitsUpward
      (storedBlocks (content.length / storedSize) content ++ trailer content)).length + 1 := by
    have hlength := length_le_storedBlocks hfuel
    have hdiv := Nat.div_le_self content.length storedSize
    rw [Inflate.length_bitsUpward, List.length_append]
    omega
  have hblocks := Inflate.gives_blocks hfuel (trailer content) #[] hsteps
  rw [Array.empty_append] at hblocks
  exact gives_bind (gives_bound _) hblocks

theorem afterHeader_header (body : List UInt8) :
    afterHeader ((header ++ body).drop 2) = .ok body := by
  have hbytes : (header ++ body).drop 2 = [8, 0, 0, 0, 0, 0, 2, 255] ++ body := rfl
  have hskip : skip 8 ([8, 0, 0, 0, 0, 0, 2, 255] ++ body) = .ok body := by
    rw [skip, if_neg (by simp)]
    rfl
  rw [afterHeader, hbytes, hskip]
  simp [hasFlag]
  rfl

/-- What a member holds comes back. -/
theorem unpack_pack (content : List UInt8) : unpack (pack content) = (pieces content, none) := by
  have hpack : pack content = header ++ (storedBlocks (content.length / storedSize) content ++
      trailer content) := by
    simp [pack, trailer]
  rw [unpack, hpack]
  generalize hbody : storedBlocks (content.length / storedSize) content ++ trailer content = body
  have hmark : (header ++ body).take 2 = mark := rfl
  have hrun := run_stream content
  rw [hbody] at hrun
  have hrest : body.drop (body.length - (bitsUpward (trailer content)).length / 8) =
      trailer content := by
    rw [← hbody, Inflate.length_bitsUpward, Nat.mul_div_cancel_left _ (by decide),
      List.length_append, Nat.add_sub_cancel, List.drop_left]
  have hended : unpackFrom (header ++ body).length [] = ([], none) := rfl
  rw [unpackFrom, hmark, afterHeader_header]
  have hsome : (header ++ body).isEmpty = false := rfl
  simp only [hsome, hrun, hrest, afterTrailer_trailer, hended, Unpacking.pieces, bne_self_eq_false,
    Bool.false_eq_true, if_false, List.append_nil]

end Gzip

end TablePipeline.Compressed
