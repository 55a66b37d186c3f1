import TablePipeline.Compressed.Bzip2.Pack
import TablePipeline.Compressed.Gzip

/-!
How a file is packed, which its name tells.
-/
namespace TablePipeline.Compressed

inductive Packing where
  | plain
  | gzip
  | bzip2
  deriving DecidableEq, Repr

namespace Packing

/-- How the file at a path is packed. -/
def ofPath (path : String) : Packing :=
  if path.endsWith ".gz" || path.endsWith ".bgz" then gzip
  else if path.endsWith ".bz2" then bzip2
  else plain

/-- The bytes of a packed file with the given content. -/
def pack : Packing → List UInt8 → List UInt8
  | plain, content => content
  | gzip, content => Gzip.pack content
  | bzip2, content => Bzip2.pack content

/-- The content of a packed file in the pieces in which it is read, up to what cannot be
unpacked. -/
def unpack : Packing → List UInt8 → List (List UInt8) × Option StreamFault
  | plain, bytes => (pieces bytes, none)
  | gzip, bytes => Gzip.unpack bytes
  | bzip2, bytes => Bzip2.unpack bytes

end Packing

end TablePipeline.Compressed
