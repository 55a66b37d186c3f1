/-!
Blank characters, and texts trimmed of them at both ends. A text is blank when nothing is left of
it after trimming.
-/
namespace TablePipeline.Text

/-- White space of every script, with the separators of the control block. -/
def isBlank (c : Char) : Bool :=
  let code := c.toNat
  (9 ≤ code && code ≤ 13) || (28 ≤ code && code ≤ 32) || code == 0x85 || code == 0xA0 ||
    code == 0x1680 || (0x2000 ≤ code && code ≤ 0x200A) || code == 0x2028 || code == 0x2029 ||
    code == 0x202F || code == 0x205F || code == 0x3000

def trimStart (cs : List Char) : List Char := cs.dropWhile isBlank

def trim (cs : List Char) : List Char := (trimStart (trimStart cs).reverse).reverse

/-- The text without the blanks at its two ends. -/
def strip (s : String) : String := String.ofList (trim s.toList)

end TablePipeline.Text
