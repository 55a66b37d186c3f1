import TablePipeline.Text.CharacterName
import TablePipeline.Text.Encoding.Head
import TablePipeline.Text.Surrogate

/-!
Encodings that write codes in digits behind a backslash. Bytes that no backslash stands before are
the first 256 codes. The full form has short escapes for control characters and a backslash for the
backslash; the bare form has nothing but codes in digits.
-/
namespace TablePipeline.Text.Escaped

/-- The character of a code, which may be half of a pair. -/
def charOf (code : Nat) : Char := if isSurrogate code then ofSurrogate code else Char.ofNat code

/-- The value of a digit in base 16. -/
def digit? (byte : UInt8) : Option Nat :=
  let n := byte.toNat
  if 0x30 ≤ n && n ≤ 0x39 then some (n - 0x30)
  else if 0x41 ≤ n && n ≤ 0x46 then some (n - 0x37)
  else if 0x61 ≤ n && n ≤ 0x66 then some (n - 0x57)
  else none

/-- Read so many digits of a code, behind `size` bytes. -/
def digitsHead (truncated tooLarge : String) (code size : Nat) : Nat → List UInt8 → Head
  | 0, _ => if 0x110000 ≤ code then .bad size tooLarge else .char (charOf code) size
  | _ + 1, [] => .cut truncated
  | count + 1, byte :: rest =>
    match digit? byte with
    | some value => digitsHead truncated tooLarge (code * 16 + value) (size + 1) count rest
    | none => .bad size truncated

/-- Why digits are not a code, by their letter. -/
def truncated (letter : String) : String := "truncated \\" ++ letter ++ " escape"

def isOctal (byte : UInt8) : Bool := 0x30 ≤ byte.toNat && byte.toNat ≤ 0x37

/-- The short escapes. -/
def shortEscapes : List (Char × Char) := [
  ('\\', '\\'), ('\'', '\''), ('"', '"'), ('b', '\x08'), ('f', '\x0c'), ('t', '\t'), ('n', '\n'),
  ('r', '\r'), ('v', '\x0b'), ('a', '\x07')]

/-- The character of a name between braces, behind a backslash and a letter. -/
def nameHead (rest : List UInt8) : Head :=
  let malformed := "malformed \\N character escape"
  match rest with
  | [] => .cut malformed
  | brace :: rest =>
    if brace.toNat != 0x7B then .bad 2 malformed
    else
      let name := rest.takeWhile fun byte => byte.toNat != 0x7D
      if name.length == rest.length then .cut malformed
      else if name.isEmpty then .bad 3 malformed
      else
        let size := name.length + 4
        match characterNamed? (String.ofList (name.map fun byte => Char.ofNat byte.toNat)) with
        | some c => .char c size
        | none => .bad size "unknown Unicode character name"

/-- What stands at the head of bytes in the full form. -/
def fullHead (first : UInt8) (rest : List UInt8) : Head :=
  if first.toNat != 0x5C then .char (Char.ofNat first.toNat) 1
  else
    match rest with
    | [] => .cut "\\ at end of string"
    | second :: rest =>
      let tooLarge := "illegal Unicode character"
      match Char.ofNat second.toNat with
      | '\n' => .run [] 2
      | 'x' => digitsHead (truncated "xXX") tooLarge 0 2 2 rest
      | 'u' => digitsHead (truncated "uXXXX") tooLarge 0 2 4 rest
      | 'U' => digitsHead (truncated "UXXXXXXXX") tooLarge 0 2 8 rest
      | 'N' => nameHead rest
      | letter =>
        if isOctal second then
          let octal := second :: (rest.take 2).takeWhile isOctal
          let code := octal.foldl (fun n byte => n * 8 + (byte.toNat - 0x30)) 0
          .char (Char.ofNat code) (1 + octal.length)
        else
          match shortEscapes.lookup letter with
          | some c => .char c 2
          | none => .run ['\\', letter] 2

/-- What stands at the head of bytes in the bare form. -/
def bareHead (final : Bool) (first : UInt8) (rest : List UInt8) : Head :=
  if first.toNat != 0x5C then .char (Char.ofNat first.toNat) 1
  else
    match rest with
    | [] => if final then .char '\\' 1 else .cut "\\ at end of string"
    | second :: rest =>
      let tooLarge := "\\Uxxxxxxxx out of range"
      match Char.ofNat second.toNat with
      | 'u' => digitsHead (truncated "uXXXX") tooLarge 0 2 4 rest
      | 'U' => digitsHead (truncated "UXXXXXXXX") tooLarge 0 2 8 rest
      | letter => .run ['\\', letter] 2

/-- A code in digits, behind a backslash and a letter for their number. -/
def inDigits (code : Nat) : List Char :=
  if code < 0x10000 then '\\' :: 'u' :: hexDigits 4 code else '\\' :: 'U' :: hexDigits 8 code

/-- A character in the full form. -/
def fullForm (c : Char) : List Char :=
  match c with
  | '\\' => ['\\', '\\']
  | '\t' => ['\\', 't']
  | '\n' => ['\\', 'n']
  | '\r' => ['\\', 'r']
  | c =>
    if ' ' ≤ c && c ≤ '~' then [c]
    else if c.toNat < 0x100 then '\\' :: 'x' :: hexDigits 2 c.toNat
    else inDigits (codeOf c)

/-- A character in the bare form. -/
def bareForm (c : Char) : List Char := if c.toNat < 0x100 then [c] else inDigits (codeOf c)

/-- The bytes of characters below 256. -/
def bytesOf (text : List Char) : List UInt8 := text.map fun c => UInt8.ofNat c.toNat

end TablePipeline.Text.Escaped
