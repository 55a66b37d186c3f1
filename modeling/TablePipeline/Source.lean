import TablePipeline.Compressed.Packing
import TablePipeline.Delimited.Reader
import TablePipeline.Names
import TablePipeline.Storage
import TablePipeline.Text.Encoding.Decode
import TablePipeline.Text.Encoding.Name

/-!
Sources: delimited files that are read lazily. A source remembers where its file is and how to read
it; what it reads is a feed of rows of the file as it is at that time. Without a header row the
columns are numbered.
-/
namespace TablePipeline

structure Source where
  uri : String
  haveHeader : Bool := true
  settings : FileSettings := .named []

namespace Source

def role : PathRole := ⟨"E_SOURCE_URI_TYPE", "Source uri"⟩

/-- Whether a path or the settings say that a file is delimited text. -/
def isDelimited (uri : String) (settings : FileSettings) : Except Fault Bool :=
  if Path.looksDelimited uri then .ok true
  else do .ok (← (settings.get "delimiter").mapError Fault.eval).truth

/-- A source for a path, checked against the files that are there. -/
def ofArgs (store : Store) (path haveHeader : Arg) (settings : FileSettings) :
    Except Fault Source := do
  let uri ← path.pathText role
  if !(← isDelimited uri settings) then throw (.schema (.sourceForm uri))
  match haveHeader with
  | .bool haveHeader =>
    if store.isFile uri then pure { uri, haveHeader, settings } else throw (.sourceMissing uri)
  | _ => throw (.schema .sourceHeader)

def signature : Signature := ⟨"Source.__init__()", ["self", "uri"], ["have_header", "options"]⟩

/-- The source that settings describe. -/
def ofSettings (store : Store) (path : Arg) (settings : Settings) : Except Fault Source := do
  (signature.check settings).mapError Fault.eval
  ofArgs store path (settings.get "have_header" (.bool true)) (.among settings)

/-- The settings that do not concern the dialect: how bytes are read, and a header row in front. -/
def ownSettings : List String := ["encoding", "errors", "header"]

/-- The settings with which the file is opened, if it is still there. -/
def opening (store : Store) (source : Source) : Except Fault Settings :=
  if !store.isFile source.uri then .error (.sourceGone source.uri)
  else Except.mapError Fault.eval do
    let settings ← source.settings.forCall "petl.io.csv.fromcsv()"
    settings.refuse ["source"] (.given "fromcsv()")
    settings.refuse ["self"] (.given "CSVView.__init__()")
    pure settings

/-- A text in the settings that says how bytes are read, if it is given. -/
def codingText (settings : Settings) (name : String) : Except EvalFault (Option String) :=
  match settings.get name .null with
  | .null => .ok none
  | .text s => .ok (some s)
  | arg => .error (.codingSetting name arg.qualifiedKind)

/-- The encoding that settings ask for, and what takes the place of what it cannot read or write. -/
def codingOf (settings : Settings) : Except EvalFault (Text.Encoding × Text.CodingPolicy) := do
  let encoding? ← codingText settings "encoding"
  let policy? ← codingText settings "errors"
  let encoding ← (Text.Encoding.ofName (encoding?.getD "utf-8")).mapError EvalFault.coding
  .ok (encoding, .ofName (policy?.getD "strict"))

/-- The text of a file that may be packed, and the failure after which there is no more of it. -/
def textOf (uri : String) (encoding : Text.Encoding) (policy : Text.CodingPolicy) (bytes : Bytes) :
    List Char × Option EvalFault :=
  let (pieces, broken?) := (Compressed.Packing.ofPath uri).unpack bytes
  let (text, stop?) := encoding.decode policy broken?.isSome pieces
  (text, stop?.map EvalFault.coding <|> broken?.map fun stop => .file (.stream stop))

/-- The rows of the file's text. -/
def textRows (uri : String) (settings : Settings) (bytes : Bytes) : Feed Row :=
  match codingOf settings, Dialect.ofSettings (settings.without ownSettings) with
  | .error stop, _ => .failed (.eval stop)
  | _, .error stop => .failed (.eval (.dialect stop))
  | .ok (encoding, policy), .ok dialect =>
    let (text, stop?) := textOf uri encoding policy bytes
    Delimited.read dialect text (stop?.map Fault.eval)

/-- The rows of the file at a path. -/
def fileRows (store : Store) (uri : String) (settings : Settings) : Feed Row :=
  match store.read uri with
  | .error stop => .failed (.eval (.file stop))
  | .ok bytes => textRows uri settings bytes

/-- All rows, the header row included: the one that the settings give, if they give one, and then
those of the file. -/
def allRows (store : Store) (source : Source) : Feed Row :=
  match source.opening store with
  | .error fault => .failed fault
  | .ok settings =>
    match settings.get "header" .null with
    | .null => fileRows store source.uri settings
    | arg =>
      match arg.elements with
      | .error stop => .failed (.eval stop)
      | .ok items =>
        .cons (items.map fun d => (d.toValue?.getD .null)) (fileRows store source.uri settings)

/-- The data rows. -/
def rows (store : Store) (source : Source) : Feed Row :=
  if source.haveHeader then (source.allRows store).drop 1 else source.allRows store

/-- A failure of the storage while the header is read is reported as one of the source. -/
def blame (uri : String) (fault : Fault) : Fault :=
  match fault with
  | .eval stop => if stop.kind.ofStorage then .sourceUnreadable uri stop else fault
  | _ => fault

/-- The names of the columns, which must be different. -/
def columns (store : Store) (source : Source) : Except Fault (List Value) := do
  let first ← ((source.allRows store).take 1).toExcept.mapError (blame source.uri)
  let header := first.headD []
  Names.distinct
    (if source.haveHeader then header
     else (Names.numbered header.length).map .text)

/-- The most items that can be asked for. -/
def maxCount : Nat := 9223372036854775807

/-- A number of items that are asked for; nothing stands for all. -/
def countOf (arg : Arg) : Except EvalFault (Option Nat) :=
  match arg with
  | .null => .ok none
  | .bool b => .ok (some b.toNat)
  | .int i => if 0 ≤ i && i ≤ maxCount then .ok (some i.toNat) else .error .badCount
  | _ => .error .badCount

/-- The first items of a feed, or all. -/
def firstOf (count? : Option Nat) (feed : Feed Row) : Except Fault (List Row) :=
  match count? with
  | some n => (feed.take n).toExcept
  | none => feed.toExcept

/-- The first rows of the file, the header row included. -/
def head (store : Store) (source : Source) (count : Arg) : Except Fault (List Row) := do
  let _ ← source.opening store
  firstOf (← (countOf count).mapError Fault.eval) (source.allRows store)

/-- The first data rows. -/
def sample (store : Store) (source : Source) (n : Nat) : Except Fault (List Row) :=
  if maxCount < n then .error (.eval .badCount) else firstOf (some n) (source.rows store)

/-- The first data rows, as many as an argument asks for. -/
def sampleOf (store : Store) (source : Source) (count : Arg) : Except Fault (List Row) := do
  firstOf (← (countOf count).mapError Fault.eval) (source.rows store)

/-- The number of bytes of the file. -/
def size (store : Store) (source : Source) : Except Fault Nat :=
  match store.read source.uri with
  | .ok bytes => .ok bytes.length
  | .error stop => .error (.eval (.file stop))

def text (source : Source) : String :=
  "Source(\"" ++ source.uri ++ "\")  header=" ++ (if source.haveHeader then "True" else "False")

end Source

end TablePipeline
