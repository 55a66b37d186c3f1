import Mathlib
import TablePipeline.Compressed.Packing
import TablePipeline.Proofs.BlockStream
import TablePipeline.Proofs.StoredBlocks

/-!
Packed files. What a file holds comes back as it is, whichever way it is packed.
-/
namespace TablePipeline.Compressed.Packing

theorem unpack_pack (packing : Packing) (content : List UInt8) :
    packing.unpack (packing.pack content) = (pieces content, none) := by
  cases packing with
  | plain => rfl
  | gzip => exact Gzip.unpack_pack content
  | bzip2 => exact Bzip2.unpack_pack content

end TablePipeline.Compressed.Packing
