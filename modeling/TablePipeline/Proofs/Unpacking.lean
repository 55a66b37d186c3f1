import Mathlib
import TablePipeline.Compressed.Bits

/-!
Steps of unpacking. A step gives a result and takes the bits that it needs off the front, whatever
follows them, so that steps can be put one after the other.
-/
namespace TablePipeline.Compressed

/-! ### Pieces -/

theorem cut_flatten {count : ℕ} {bytes : List UInt8} (h : bytes.length ≤ count * pieceSize) :
    (cut count bytes).flatten = bytes := by
  induction count generalizing bytes with
  | zero =>
    obtain rfl : bytes = [] := by simpa using h
    rfl
  | succ count ih =>
    rw [cut]
    split_ifs with hempty
    · rw [List.isEmpty_iff.1 hempty]
      rfl
    · rw [List.flatten_cons, ih (by rw [List.length_drop]; rw [Nat.succ_mul] at h; omega),
        List.take_append_drop]

theorem pieces_flatten (bytes : List UInt8) : (pieces bytes).flatten = bytes := by
  refine cut_flatten ?_
  have := Nat.lt_div_mul_add (a := bytes.length) (show 0 < pieceSize by decide)
  rw [Nat.succ_mul]
  omega

/-! ### Reading bits -/

namespace Unpack

variable {α β : Type} {s s₁ s₂ : Unpacking}

/-- A step takes one state to another and gives a result. -/
def Gives (x : Unpack α) (s : Unpacking) (a : α) (s' : Unpacking) : Prop := x.run s = (.ok a, s')

theorem gives_pure (a : α) (s : Unpacking) : Gives (pure a) s a s := rfl

theorem gives_bind {x : Unpack α} {f : α → Unpack β} {a : α} {b : β} (hx : Gives x s a s₁)
    (hf : Gives (f a) s₁ b s₂) : Gives (x >>= f) s b s₂ := by
  have hrun : ∀ next : Except StreamFault α → StateM Unpacking (Except StreamFault β),
      (x.run >>= next) s = next (x.run s).1 (x.run s).2 := fun _ => rfl
  rw [Gives, ExceptT.run_bind, hrun, hx]
  exact hf

theorem gives_bit (b : Bool) (rest : Bits) (output : Array UInt8) :
    Gives bit ⟨b :: rest, output⟩ b ⟨rest, output⟩ := rfl

theorem gives_emit (byte : UInt8) (bits : Bits) (output : Array UInt8) :
    Gives (emit byte) ⟨bits, output⟩ () ⟨bits, output.push byte⟩ := rfl

theorem gives_align (bits : Bits) (output : Array UInt8) :
    Gives align ⟨bits, output⟩ () ⟨bits.drop (bits.length % 8), output⟩ := rfl

theorem gives_bound (s : Unpacking) : Gives bound s (s.bits.length + 1) s := rfl

theorem gives_take (bits rest : Bits) (output : Array UInt8) :
    Gives (take bits.length) ⟨bits ++ rest, output⟩ bits ⟨rest, output⟩ := by
  induction bits with
  | nil => rfl
  | cons b bits ih =>
    exact gives_bind (gives_bit b (bits ++ rest) output) (gives_bind ih (gives_pure _ _))

/-- A byte is the number that its bits make. -/
theorem toNat_bitsOfByte (byte : UInt8) :
    (bitsOfByte byte).foldr (fun b n => 2 * n + b.toNat) 0 = byte.toNat := by
  have hall : ∀ n : Fin 256, ((List.range 8).map fun place => n.val.testBit place).foldr
      (fun b n => 2 * n + b.toNat) 0 = n.val := by decide +kernel
  exact hall ⟨byte.toNat, byte.toNat_lt⟩

theorem length_bitsOfByte (byte : UInt8) : (bitsOfByte byte).length = 8 := by simp [bitsOfByte]

theorem gives_byte (byte : UInt8) (rest : Bits) (output : Array UInt8) :
    Gives (numberUp 8) ⟨bitsOfByte byte ++ rest, output⟩ byte.toNat ⟨rest, output⟩ := by
  have htake := gives_take (bitsOfByte byte) rest output
  rw [length_bitsOfByte] at htake
  rw [← toNat_bitsOfByte]
  exact gives_bind htake (gives_pure _ _)

theorem foldr_bits (bits : Bits) (n : ℕ) : bits.foldr (fun b n => 2 * n + b.toNat) n =
    bits.foldr (fun b n => 2 * n + b.toNat) 0 + 2 ^ bits.length * n := by
  induction bits with
  | nil => simp
  | cons b bits ih =>
    rw [List.foldr_cons, List.foldr_cons, ih, List.length_cons, pow_succ]
    ring

/-- Two bytes, the lower one first. -/
theorem gives_two (low high : UInt8) (rest : Bits) (output : Array UInt8) :
    Gives (numberUp 16) ⟨bitsOfByte low ++ (bitsOfByte high ++ rest), output⟩
      (low.toNat + 256 * high.toNat) ⟨rest, output⟩ := by
  have htake := gives_take (bitsOfByte low ++ bitsOfByte high) rest output
  rw [List.length_append, length_bitsOfByte, length_bitsOfByte, List.append_assoc] at htake
  have hnumber : (bitsOfByte low ++ bitsOfByte high).foldr (fun b n => 2 * n + b.toNat) 0 =
      low.toNat + 256 * high.toNat := by
    rw [List.foldr_append, toNat_bitsOfByte, foldr_bits, toNat_bitsOfByte, length_bitsOfByte]
    rfl
  rw [← hnumber]
  exact gives_bind htake (gives_pure _ _)

end Unpack

end TablePipeline.Compressed
