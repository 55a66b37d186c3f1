import TablePipeline.Text.CodePage
import TablePipeline.Text.DoubleByte.Basic
import TablePipeline.Text.Quoted

/-!
Encodings of text as bytes, what may go wrong with them, and what may take the place of what goes
wrong. An encoding is a way to write characters, with or without a byte order mark in front of the
whole text.
-/
namespace TablePipeline.Text

/-- Which byte of a unit comes first. -/
inductive ByteOrder where
  | little
  | big
  deriving DecidableEq, Repr

/-- A way to write characters as bytes. -/
inductive Coding where
  | utf8
  | latin1
  | ascii
  | page (page : CodePage)
  | doubleByte (pages : DoubleByte)
  | utf7
  /-- Codes in digits, with short escapes besides if it is the full form. -/
  | escaped (full : Bool)
  /-- No bytes have a meaning. -/
  | meaningless
  | utf16 (order : ByteOrder)
  | utf32 (order : ByteOrder)
  deriving DecidableEq, Repr

structure Encoding where
  coding : Coding
  /-- Whether a byte order mark comes before the text. -/
  marked : Bool := false
  deriving DecidableEq, Repr

/-- What takes the place of a character that cannot be read or written. -/
inductive CodingPolicy where
  | strict
  | ignore
  | replace
  | escape
  /-- The number of the character; for writing only. -/
  | reference
  /-- The name of the character; for writing only. -/
  | nameEscape
  /-- Bytes become lone surrogates, and lone surrogates become bytes again. -/
  | surrogateEscape
  /-- Lone surrogates are read and written like characters. -/
  | surrogatePass
  | unknown (name : String)
  deriving DecidableEq, Repr

def CodingPolicy.ofName : String → CodingPolicy
  | "strict" => strict
  | "ignore" => ignore
  | "replace" => replace
  | "backslashreplace" => escape
  | "xmlcharrefreplace" => reference
  | "namereplace" => nameEscape
  | "surrogateescape" => surrogateEscape
  | "surrogatepass" => surrogatePass
  | name => unknown name

/-- Why bytes were not read as text, or a text not written as bytes. -/
inductive CodingFault where
  | undecodable (encoding : String) (first : UInt8) (start size : Nat) (reason : String)
  | unencodable (encoding : String) (first : Char) (start size : Nat) (reason : String)
  | noMark (encoding : String)
  | meaningless
  | unknownEncoding (name : String)
  | notTextEncoding (name : String)
  | nullInName
  | unknownPolicy (name : String)
  /-- A policy for writing was to be used for reading. -/
  | writingPolicy
  deriving DecidableEq, Repr

namespace CodingFault

private def span (what : String) (start size : Nat) : String :=
  s!"{what}s in position {start}-{start + size - 1}"

def message : CodingFault → String
  | undecodable encoding first start size reason =>
    let place :=
      if size == 1 then
        s!"byte 0x{String.ofList (hexDigits 2 first.toNat)} in position {start}"
      else span "byte" start size
    s!"'{encoding}' codec can't decode {place}: {reason}"
  | unencodable encoding first start size reason =>
    let place :=
      if size == 1 then
        s!"character '{String.ofList (codeEscape first)}' in position {start}"
      else span "character" start size
    s!"'{encoding}' codec can't encode {place}: {reason}"
  | meaningless => "undefined encoding"
  | noMark encoding => s!"{encoding} stream does not start with BOM"
  | unknownEncoding name => s!"unknown encoding: {name}"
  | notTextEncoding name =>
    s!"'{name}' is not a text encoding; use codecs.open() to handle arbitrary codecs"
  | nullInName => "embedded null character"
  | unknownPolicy name => s!"unknown error handler name '{name}'"
  | writingPolicy => "don't know how to handle UnicodeDecodeError in error callback"

end CodingFault

/-- The name that a fault gives to a coding. -/
def Coding.label : Coding → String
  | utf8 => "utf-8"
  | latin1 => "latin-1"
  | ascii => "ascii"
  | page _ => "charmap"
  | doubleByte d => d.label
  | utf7 => "utf7"
  | escaped true => "unicodeescape"
  | escaped false => "rawunicodeescape"
  | meaningless => "undefined"
  | utf16 .little => "utf-16-le"
  | utf16 .big => "utf-16-be"
  | utf32 .little => "utf-32-le"
  | utf32 .big => "utf-32-be"

/-- The bytes of a number in a unit of so many bytes. -/
def unitBytes (order : ByteOrder) (width n : Nat) : List UInt8 :=
  let little := (List.range width).map fun place => UInt8.ofNat (n / Nat.pow 256 place)
  match order with
  | .little => little
  | .big => little.reverse

/-- The number that the bytes of a unit write. -/
def unitValue (order : ByteOrder) (bytes : List UInt8) : Nat :=
  let big := match order with
    | .little => bytes.reverse
    | .big => bytes
  big.foldl (fun n byte => n * 256 + byte.toNat) 0

/-- The byte order mark of a coding. -/
def Coding.mark : Coding → List UInt8
  | utf8 => [0xEF, 0xBB, 0xBF]
  | utf16 order => unitBytes order 2 0xFEFF
  | utf32 order => unitBytes order 4 0xFEFF
  | _ => []

end TablePipeline.Text
