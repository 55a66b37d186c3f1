/-!
What stands at the head of a run of bytes that is read as text.
-/
namespace TablePipeline.Text

inductive Head where
  | char (c : Char) (size : Nat)
  /-- Several characters, or none, that only together have bytes. -/
  | run (text : List Char) (size : Nat)
  /-- Bytes that stand for no character, and the text that was read before that was clear. -/
  | bad (size : Nat) (reason : String) (before : List Char := [])
  /-- The bytes end inside a character. -/
  | cut (reason : String)

end TablePipeline.Text
