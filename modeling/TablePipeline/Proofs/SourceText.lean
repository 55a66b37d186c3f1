import Mathlib
import TablePipeline.Run.Cursor
import TablePipeline.Table.Basic

/-!
Reading a plain file. Where the settings name an encoding and a dialect, and all bytes can be read,
the rows of a source are those of the lines of its text, less the header row.
-/
namespace TablePipeline

/-- A path of one part leads to the file of that name in the working folder. -/
theorem Store.walk_name {store : Store} {name : String} (hu : Path.unwritable? name = none)
    (hp : Path.parts name = [name]) (hroot : Path.root name = "")
    (hname : name ≠ "" ∧ name ≠ "." ∧ name ≠ "..") (hsize : name.utf8ByteSize ≤ nameLimit) :
    store.walk name =
      if store.folders.contains [name] then .folder [name]
      else if (store.content? [name]).isSome then .file [name] else .free [name] := by
  have hpath : ¬pathLimit < name.utf8ByteSize := by
    have : nameLimit ≤ pathLimit := by decide
    omega
  simp [walk, hu, hp, hroot, hname, hpath, step, Nat.not_lt.2 hsize]

namespace Source

variable {store : Store} {source : Source} {settings : Settings} {bytes : Bytes}
  {encoding : Text.Encoding} {policy : Text.CodingPolicy} {dialect : Dialect} {cs : List Char}

/-- All rows of a file all of whose bytes are text. -/
theorem allRows_of_text
    (hopen : source.opening store = .ok settings) (hheader : settings.get "header" .null = .null)
    (hread : store.read source.uri = .ok bytes) (hcoding : codingOf settings = .ok (encoding, policy))
    (hdialect : Dialect.ofSettings (settings.without ownSettings) = .ok dialect)
    (htext : textOf source.uri encoding policy bytes = (cs, none)) :
    source.allRows store = Delimited.readRows dialect none {} (Delimited.lines cs) := by
  simp only [allRows, hopen, hheader, fileRows, hread, textRows, hcoding, hdialect, htext]
  rfl

end Source

/-! ### A file of two rows -/

def sampleBytes : Bytes := [107, 44, 118, 10, 97, 44, 49, 10, 98, 44, 50, 10]

def sampleLines : List (List Char) := [['k', ',', 'v', '\n'], ['a', ',', '1', '\n'],
  ['b', ',', '2', '\n']]

/-- A working folder with one file. -/
def sampleStore : Store := { files := [(["a.csv"], sampleBytes)] }

def sampleSource : Source := { uri := "a.csv", settings := .named [("encoding", .text "locale")] }

/-- The table that is opened on the file. -/
def sampleTable : Table where
  source := sampleSource
  header := [.text "k", .text "v"]
  batchSize := 1
  catalog := {
    slots := [{ name := .text "k" }, { name := .text "v" }]
    order := [0, 1]
    sourceWidth := 2 }

theorem parts_sample : Path.parts "a.csv" = ["a.csv"] := by
  -- a path is gone through character by character, and once more at its end
  rw [Path.parts, String.splitOn, if_neg (by decide)]
  iterate 6 rw [String.splitOnAux]
  rfl

theorem walk_sample (bytes : Bytes) :
    Store.walk { files := [(["a.csv"], bytes)] } "a.csv" = .file ["a.csv"] := by
  have hu : (Path.unwritable? "a.csv").isNone = true := by decide +kernel
  rw [Store.walk_name (Option.isNone_iff_eq_none.1 hu) parts_sample (by cbv) (by decide) (by decide)]
  rfl

theorem ofPath_sample : Compressed.Packing.ofPath "a.csv" = .plain := by cbv

theorem textOf_sample :
    Source.textOf "a.csv" ⟨.utf8, false⟩ .strict sampleBytes = (sampleLines.flatten, none) := by
  have hpieces : Compressed.pieces sampleBytes = [sampleBytes] := by cbv
  have hdecode : Text.Encoding.decode ⟨.utf8, false⟩ .strict false [sampleBytes] =
      (sampleLines.flatten, none) := by cbv
  simp only [Source.textOf, ofPath_sample, Compressed.Packing.unpack, hpieces, Option.isSome_none, hdecode]
  rfl

/-- The header row of the file and its rows. -/
theorem allRows_sample : sampleSource.allRows sampleStore =
    ⟨[[.text "k", .text "v"], [.text "a", .text "1"], [.text "b", .text "2"]], none⟩ := by
  have hread : sampleStore.read "a.csv" = .ok sampleBytes := by
    rw [Store.read, sampleStore, walk_sample]
    rfl
  have hopen : sampleSource.opening sampleStore = .ok [("encoding", .text "locale")] := by
    simp only [Source.opening, sampleSource, Store.isFile, sampleStore, walk_sample]
    rfl
  have hlines : Delimited.lines sampleLines.flatten = sampleLines := by cbv
  rw [Source.allRows_of_text hopen rfl hread rfl rfl textOf_sample, hlines]
  rfl

theorem rows_sample :
    sampleSource.rows sampleStore = ⟨[[.text "a", .text "1"], [.text "b", .text "2"]], none⟩ := by
  rw [Source.rows, allRows_sample]
  rfl

/-- The rows of the file in batches of one. -/
theorem batches_sample : ((sampleSource.rows sampleStore).numbered).batches 1 =
    ⟨[[⟨0, [.text "a", .text "1"]⟩], [⟨1, [.text "b", .text "2"]⟩]], none⟩ := by
  rw [rows_sample]
  cbv

theorem size_sample : sampleSource.size sampleStore = .ok 12 := by
  simp only [Source.size, Store.read, sampleSource, sampleStore, walk_sample]
  rfl

end TablePipeline
