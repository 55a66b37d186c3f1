import TablePipeline.Delimited.Writer
import TablePipeline.Source
import TablePipeline.Text.Encoding.Encode

/-!
Sinks: delimited files that are written row by row, a header row first. Opening a sink empties its
file, and only then are the rows produced; so a producer that reads the same file finds it empty.
When a row fails, what was written before it stays in the file.
-/
namespace TablePipeline

structure Sink where
  uri : String
  settings : FileSettings := .named []

namespace Sink

def role : PathRole := ⟨"E_SINK_URI_TYPE", "Output path"⟩

/-- The settings that do not concern the dialect: how bytes are written, and whether a header is. -/
def ownSettings : List String := ["encoding", "errors", "write_header"]

/-- The folder that the file is in. -/
def folder (uri : String) : String := if Path.parent uri == "" then "." else Path.parent uri

/-- A sink for a path into a folder that is there. -/
def ofArgs (store : Store) (path : Arg) (settings : FileSettings) : Except Fault Sink := do
  let uri ← path.pathText role
  if !(← Source.isDelimited uri settings) then throw (.schema (.sinkForm uri))
  if store.isFolder (folder uri) then pure { uri, settings }
  else throw (.sinkFolderMissing (folder uri))

def signature : Signature := ⟨"Sink.__init__()", ["self", "uri"], ["options"]⟩

/-- The sink that settings describe. -/
def ofSettings (store : Store) (path : Arg) (settings : Settings) : Except Fault Sink := do
  (signature.check settings).mapError Fault.eval
  ofArgs store path (.among settings)

/-- The settings with which the file is opened. -/
def opening (sink : Sink) : Except EvalFault Settings := do
  let settings ← sink.settings.forCall "petl.io.csv.tocsv()"
  settings.refuse ["source", "table"] (.given "tocsv()")
  settings.refuse ["mode"] (.givenTwice "petl.io.csv_py3._writecsv()")
  pure settings

/-- The text of rows as bytes, the last row first, up to the first row that cannot be written. -/
def writeRows (d : Dialect) (coding : Text.Coding) (policy : Text.CodingPolicy) :
    List Row → List Bytes → List Bytes × Option Fault
  | [], written => (written, none)
  | row :: rest, written =>
    match Delimited.writeRow d row with
    | .error stop => (written, some (.eval stop))
    | .ok text =>
      match coding.encode policy text with
      | .error stop => (written, some (.eval (.coding stop)))
      | .ok bytes => writeRows d coding policy rest (bytes :: written)

/-- The bytes of the whole file. What comes before a text is written with the first row. -/
def assemble (encoding : Text.Encoding) (written : List Bytes) : Bytes :=
  if written.isEmpty then [] else encoding.front ++ written.reverse.flatten

/-- Whether the header row is written. -/
def writesHeader (settings : Settings) : Bool := (settings.get "write_header" (.bool true)).truth

/-- What the file holds at the end, and the failure that ended the writing, if one did. -/
def fill (settings : Settings) (header : Row) (rows : Feed Row) : Bytes × Option Fault :=
  match Source.codingOf settings, Dialect.ofSettings (settings.without ownSettings) with
  | .error stop, _ => ([], some (.eval stop))
  | _, .error stop => ([], some (.eval (.dialect stop)))
  | .ok (encoding, policy), .ok dialect =>
    let front := if writesHeader settings then [header] else []
    let (written, fault) := writeRows dialect encoding.coding policy (front ++ rows.items) []
    (assemble encoding written, fault <|> rows.fault)

/-- A failure of the storage is reported as one of the sink; the others stay what they are. -/
def blame (uri : String) (fault : Fault) : Fault :=
  match fault with
  | .eval stop =>
    if stop.kind == .permission then .sinkRefused uri fault
    else if stop.kind.ofStorage then .sinkFailed uri fault
    else fault
  | _ => fault

/-- The storage with the file open and empty, and the settings with which it was opened. -/
def opened (sink : Sink) (store : Store) : Except Fault (Store × Settings) := do
  let settings ← sink.opening.mapError Fault.eval
  match store.write sink.uri [] with
  | .ok store => pure (store, settings)
  | .error stop => throw (blame sink.uri (.eval (.file stop)))

/-- Write the header and the rows into the open file. The result is the number of data rows. -/
def filled (sink : Sink) (header : Row) (rows : Feed Row) (opened : Store × Settings) :
    Except Fault Nat × Store :=
  let (store, settings) := opened
  let (bytes, fault) := fill settings header rows
  let packed := (Compressed.Packing.ofPath sink.uri).pack bytes
  let closed := (store.write sink.uri packed).toOption.getD store
  match fault with
  | some fault => (.error (blame sink.uri fault), closed)
  | none => (.ok rows.items.length, closed)

/-- Write the header and the rows that `produce` makes once the file is open and empty. -/
def write (sink : Sink) (header : Row) (produce : Store → Feed Row) (store : Store) :
    Except Fault Nat × Store :=
  match sink.opened store with
  | .error fault => (.error fault, store)
  | .ok opened => sink.filled header (produce opened.1) opened

/-- A row as a caller passes it: whatever yields its cells one by one. -/
def rowOf (row : Arg) : Except Fault Row :=
  match row.elements with
  | .ok cells => .ok (cells.map fun d => d.toValue?.getD .null)
  | .error _ => .error (.eval (.delimited (.rowNotIterable row.qualifiedKind)))

/-- Rows as a caller passes them. -/
def rowsOf (rows : Arg) : Feed Row :=
  match rows.elements with
  | .ok rows => Feed.flatMapM (fun row => do .ok [← rowOf row]) ⟨rows, none⟩
  | .error stop => .failed (.eval stop)

/-- Write a header and rows as a caller passes them. -/
def writeArgs (sink : Sink) (header rows : Arg) (store : Store) : Except Fault Nat × Store :=
  match header.elements with
  | .ok cells =>
    sink.write (cells.map fun d => d.toValue?.getD .null) (fun _ => rowsOf rows) store
  | .error stop => (.error (.eval stop), store)

def text (sink : Sink) : String := "Sink(\"" ++ sink.uri ++ "\")"

end Sink

end TablePipeline
