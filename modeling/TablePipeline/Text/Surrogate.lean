/-!
Lone surrogates. A text may hold half of a pair of surrogates on its own, and no character stands
for that. It is kept as the character of the last private plane with the same last four digits.
-/
namespace TablePipeline.Text

/-- Whether a code is that of half of a pair. -/
def isSurrogate (code : Nat) : Bool := 0xD800 ≤ code && code ≤ 0xDFFF

/-- The first code of the plane in which halves of pairs are kept. -/
def surrogatePlane : Nat := 0x100000

/-- The character that is kept for half of a pair. -/
def ofSurrogate (code : Nat) : Char := Char.ofNat (surrogatePlane + code)

/-- The half of a pair that a character is kept for. -/
def surrogate? (c : Char) : Option Nat :=
  if isSurrogate (c.toNat - surrogatePlane) then some (c.toNat - surrogatePlane) else none

/-- The code of a character, or of what it is kept for. -/
def codeOf (c : Char) : Nat := (surrogate? c).getD c.toNat

/-- The codes of a text's characters. -/
def codes (s : String) : List Nat := s.toList.map codeOf

/-- Texts have the order of their codes, so that half of a pair keeps its place before the planes. -/
def order (s t : String) : Ordering := compare (codes s) (codes t)

end TablePipeline.Text
