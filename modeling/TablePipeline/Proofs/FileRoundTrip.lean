import Mathlib
import TablePipeline.Proofs.DelimitedText
import TablePipeline.Proofs.OutputFile
import TablePipeline.Proofs.Packing
import TablePipeline.Proofs.Utf8

/-!
A file that is written and read back. With the same delimiter on both sides, texts come back as they
were, whatever is in them; only half of a pair of surrogates on its own has no bytes and cannot be
written.
-/
namespace TablePipeline

open Compressed

/-! ### The settings -/

/-- Settings that name a delimiter and nothing else. -/
def delimiterSettings (sep : Char) : Settings := [("delimiter", .text (String.singleton sep))]

variable {sep : Char}

theorem codingOf_delimiter (sep : Char) :
    Source.codingOf (delimiterSettings sep) = .ok (⟨.utf8, false⟩, .strict) := by
  have hname : Text.Encoding.ofName "utf-8" = .ok ⟨.utf8, false⟩ := by decide +kernel
  have hencoding : Source.codingText (delimiterSettings sep) "encoding" = .ok none := rfl
  have hpolicy : Source.codingText (delimiterSettings sep) "errors" = .ok none := rfl
  simp only [Source.codingOf, hencoding, hpolicy, ok_bind, Option.getD_none, hname]
  rfl

theorem ofSettings_delimiter (sep : Char) :
    Dialect.ofSettings (delimiterSettings sep) = .ok (Delimited.separatedBy sep) := by
  have hsettings : Dialect.ofSettings (delimiterSettings sep) =
      (Dialect.characterOf "delimiter" ',' (some (.text (String.singleton sep))) >>=
        fun delimiter => .ok (Delimited.separatedBy delimiter)) := rfl
  have hdelimiter : Dialect.characterOf "delimiter" ',' (some (.text (String.singleton sep))) =
      .ok sep := by
    simp [Dialect.characterOf]
  rw [hsettings, hdelimiter, ok_bind]

/-! ### Texts in a file -/

/-- A row of texts. -/
def textRow (row : List String) : Row := row.map .text

/-- The characters of a file of rows of texts. -/
def fileText (sep : Char) (rows : List (List String)) : List Char :=
  (rows.map (List.map String.toList)).flatMap (Delimited.rowOf sep)

theorem utf8Encode_fileText (sep : Char) (rows : List (List String)) :
    Text.utf8Encode (fileText sep rows) = (rows.map fun row =>
      Text.utf8Encode (Delimited.rowOf sep (row.map String.toList))).flatten := by
  induction rows with
  | nil => rfl
  | cons row rows ih =>
    rw [fileText] at ih ⊢
    rw [List.map_cons, List.flatMap_cons, Text.utf8Encode_append, ih]
    rfl

/-- The texts of rows, and the delimiter if it is written, have no lone surrogates. -/
def Encodable (sep : Char) (rows : List (List String)) : Prop :=
  ∀ row ∈ rows, (∀ cell ∈ row, ∀ c ∈ cell.toList, Text.surrogate? c = none) ∧
    (row.length = 1 ∨ Text.surrogate? sep = none)

theorem forall_mem_rowOf_surrogate {row : List String} (hrow : row ≠ []) :
    (∀ c ∈ Delimited.rowOf sep (row.map String.toList), Text.surrogate? c = none) ↔
      (∀ cell ∈ row, ∀ c ∈ cell.toList, Text.surrogate? c = none) ∧
        (row.length = 1 ∨ Text.surrogate? sep = none) := by
  have h := @Delimited.forall_mem_rowOf sep (fun c => Text.surrogate? c = none) (by decide)
    (by decide) (by decide) (row.map String.toList) (by simpa using hrow)
  simpa using h

namespace Sink

/-- Rows of texts that have bytes are all written, each behind those before it. -/
theorem writeRows_texts {rows : List (List String)} (hrows : ∀ row ∈ rows, row ≠ [])
    (hencodable : Encodable sep rows) (written : List Bytes) :
    writeRows (Delimited.separatedBy sep) .utf8 .strict (rows.map textRow) written =
      ((rows.map fun row =>
        Text.utf8Encode (Delimited.rowOf sep (row.map String.toList))).reverse ++ written, none) := by
  induction rows generalizing written with
  | nil => rfl
  | cons row rows ih =>
    have hrow := hrows row List.mem_cons_self
    have hbytes := Text.encode_utf8 .strict
      ((forall_mem_rowOf_surrogate hrow).2 (hencodable row List.mem_cons_self))
    have hrest := ih (fun r hr => hrows r (List.mem_cons_of_mem row hr))
      fun r hr => hencodable r (List.mem_cons_of_mem row hr)
    rw [List.map_cons, textRow, writeRows, Delimited.writeRow_texts hrow sep]
    simp only [hbytes, hrest]
    simp

/-- If all rows of texts are written, they have bytes. -/
theorem encodable_of_writeRows {rows : List (List String)} (hrows : ∀ row ∈ rows, row ≠ [])
    {written : List Bytes}
    (h : (writeRows (Delimited.separatedBy sep) .utf8 .strict (rows.map textRow) written).2 =
      none) :
    Encodable sep rows := by
  induction rows generalizing written with
  | nil => simp [Encodable]
  | cons row rows ih =>
    have hrow := hrows row List.mem_cons_self
    rw [List.map_cons, textRow, writeRows, Delimited.writeRow_texts hrow sep] at h
    cases hbytes : Text.Coding.encode .utf8 .strict
        (Delimited.rowOf sep (row.map String.toList)) with
    | error stop => simp [hbytes] at h
    | ok bytes =>
      simp only [hbytes] at h
      have hfirst :=
        (forall_mem_rowOf_surrogate hrow).1 (Text.encode_utf8_strict_iff.1 ⟨bytes, hbytes⟩)
      have hrest := ih (fun r hr => hrows r (List.mem_cons_of_mem row hr)) h
      exact List.forall_mem_cons.2 ⟨hfirst, hrest⟩

variable {header : List String} {rows : List (List String)}

theorem fill_delimiter (sep : Char) (header : List String) (rows : List (List String)) :
    fill (delimiterSettings sep) (textRow header) ⟨rows.map textRow, none⟩ =
      let (written, fault) :=
        writeRows (Delimited.separatedBy sep) .utf8 .strict ((header :: rows).map textRow) []
      (assemble ⟨.utf8, false⟩ written, fault) := by
  have hdialect : Dialect.ofSettings ((delimiterSettings sep).without Sink.ownSettings) =
      .ok (Delimited.separatedBy sep) := ofSettings_delimiter sep
  have hfront : writesHeader (delimiterSettings sep) = true := rfl
  simp only [fill, codingOf_delimiter, hdialect, hfront, if_true, List.singleton_append,
    List.map_cons]
  cases (writeRows (Delimited.separatedBy sep) .utf8 .strict (textRow header :: rows.map textRow)
    []).2 <;> rfl

/-- What the file of a sink holds at the end. -/
theorem fill_texts (hrows : ∀ row ∈ header :: rows, row ≠ [])
    (hencodable : Encodable sep (header :: rows)) :
    fill (delimiterSettings sep) (textRow header) ⟨rows.map textRow, none⟩ =
      (Text.utf8Encode (fileText sep (header :: rows)), none) := by
  rw [fill_delimiter, writeRows_texts hrows hencodable, utf8Encode_fileText]
  simp [assemble, Text.Encoding.front]

theorem encodable_of_fill (hrows : ∀ row ∈ header :: rows, row ≠ [])
    (h : (fill (delimiterSettings sep) (textRow header) ⟨rows.map textRow, none⟩).2 = none) :
    Encodable sep (header :: rows) := by
  rw [fill_delimiter] at h
  exact encodable_of_writeRows hrows h

end Sink

namespace Source

/-- The text of a file comes out as it was put in, packed or not. -/
theorem textOf_pack (uri : String) (cs : List Char) :
    textOf uri ⟨.utf8, false⟩ .strict ((Packing.ofPath uri).pack (Text.utf8Encode cs)) =
      (cs, none) := by
  have hunpack := (Packing.ofPath uri).unpack_pack (Text.utf8Encode cs)
  have hpieces := pieces_flatten (Text.utf8Encode cs)
  simp [textOf, hunpack, Text.Encoding.decode_utf8 .strict hpieces]

/-- A file of texts is read back. -/
theorem allRows_texts {store : Store} {source : Source} {rows : List (List String)}
    (hquote : sep ≠ '"') (hend : Delimited.isLineEnd sep = false)
    (hrows : ∀ row ∈ rows, row ≠ [])
    (hsize : ∀ row ∈ rows, ∀ cell ∈ row, cell.length ≤ Delimited.fieldLimit)
    (hopen : source.opening store = .ok (delimiterSettings sep))
    (hread : store.read source.uri =
      .ok ((Packing.ofPath source.uri).pack (Text.utf8Encode (fileText sep rows)))) :
    source.allRows store = ⟨rows.map textRow, none⟩ := by
  rw [allRows_of_text hopen rfl hread (codingOf_delimiter sep) (ofSettings_delimiter sep)
    (textOf_pack source.uri _)]
  have hback : ∀ row : List String, (row.map String.toList).map Delimited.textOf = textRow row := by
    simp [Delimited.textOf, textRow]
  have hall := @Delimited.readOn_rows sep hquote hend (rows.map (List.map String.toList))
    (by simpa using hrows) (by simpa [String.length_toList] using hsize)
  rw [List.map_map] at hall
  simp only [Function.comp_def, hback] at hall
  exact hall

end Source

/-! ### Sinks of texts -/

namespace Sink

variable {store : Store} {path : Arg} {sink : Sink}

theorem ofArgs_eq_ok {settings : FileSettings} (h : Sink.ofArgs store path settings = .ok sink) :
    path.pathText role = .ok sink.uri ∧ Source.isDelimited sink.uri settings = .ok true ∧
      sink.settings = settings := by
  obtain ⟨uri, huri, h⟩ := bind_eq_ok.1 h
  obtain ⟨delimited, hdelimited, h⟩ := bind_eq_ok.1 h
  obtain ⟨hform, h⟩ := guard_eq_ok.1 h
  split_ifs at h with hfolder
  · cases h
    obtain rfl : delimited = true := by simpa using hform
    exact ⟨huri, hdelimited, rfl⟩

theorem pathText_of_ok {arg : Arg} {role role' : PathRole} {uri : String}
    (h : arg.pathText role = .ok uri) : arg.pathText role' = .ok uri := by
  unfold Arg.pathText at h ⊢
  cases arg with
  | text s | path s =>
    dsimp only at h ⊢
    split_ifs at h ⊢
    exact h
  | _ => cases h

/-- Rows of texts as a caller passes them. -/
theorem writeArgs_texts (sink : Sink) (header : List String) (rows : List (List String))
    (store : Store) :
    sink.writeArgs (.list (header.map .text)) (.list (rows.map fun row => .list (row.map .text)))
        store =
      sink.write (textRow header) (fun _ => ⟨rows.map textRow, none⟩) store := by
  have hcells : ∀ row : List String, (row.map Datum.text).map
      (fun d : Arg => d.toValue?.getD .null) = textRow row := by
    intro row
    rw [List.map_map]
    rfl
  have hrow : ∀ row : List String, rowOf (.list (row.map .text)) = .ok (textRow row) := by
    intro row
    rw [← hcells]
    rfl
  have hrows : rowsOf (.list (rows.map fun row => .list (row.map .text))) =
      ⟨rows.map textRow, none⟩ := by
    have helements : Datum.elements (.list (rows.map fun row => .list (row.map .text)) : Arg) =
        .ok (rows.map fun row => .list (row.map .text)) := rfl
    simp only [rowsOf, helements, Feed.flatMapM]
    induction rows with
    | nil => rfl
    | cons row rows ih =>
      rw [List.map_cons, Feed.traverse, hrow, ih rfl]
      rfl
  have helements : Datum.elements (.list (header.map .text) : Arg) = .ok (header.map .text) := rfl
  simp only [writeArgs, helements, hcells, hrows]

/-- The path of a sink is that of a source once the file is there. -/
theorem source_of_sink {settings : FileSettings} {store' : Store}
    (hsink : Sink.ofArgs store path settings = .ok sink) (hfile : store'.isFile sink.uri = true) :
    Source.ofArgs store' path (.bool true) settings = .ok { uri := sink.uri, settings } := by
  obtain ⟨huri, hdelimited, -⟩ := ofArgs_eq_ok hsink
  rw [Source.ofArgs, pathText_of_ok huri, ok_bind, hdelimited, ok_bind]
  simp [hfile]

theorem opening_delimiter (h : sink.settings = .named (delimiterSettings sep)) :
    sink.opening = .ok (delimiterSettings sep) := by
  rw [opening, h]
  rfl

/-- A sink writes texts if and only if there is a place for its file and they have bytes, and its
file holds these. -/
theorem write_texts_iff {header : List String} {rows : List (List String)}
    (hsettings : sink.settings = .named (delimiterSettings sep))
    (hrows : ∀ row ∈ header :: rows, row ≠ []) {count : ℕ} {store' : Store} :
    sink.write (textRow header) (fun _ => ⟨rows.map textRow, none⟩) store = (.ok count, store') ↔
      Encodable sep (header :: rows) ∧ count = rows.length ∧
        ∃ at_, store.place? sink.uri = some at_ ∧
          store' = (store.put at_ []).put at_ ((Packing.ofPath sink.uri).pack
            (Text.utf8Encode (fileText sep (header :: rows)))) := by
  cases hplace : store.place? sink.uri with
  | none =>
    cases hopened : sink.opened store with
    | error fault => simp [write, hopened]
    | ok opened =>
      obtain ⟨-, at_, hat, -⟩ := opened_eq_ok hopened
      cases hplace.symm.trans hat
  | some at_ =>
    have hplace' : (store.put at_ []).place? sink.uri = some at_ := by
      rw [Store.place?, Store.walk_put_of_place hplace, Spot.place?]
    have hopened : sink.opened store = .ok (store.put at_ [], delimiterSettings sep) := by
      rw [opened, opening_delimiter hsettings, Store.write_eq_ok_iff.2 ⟨at_, hplace, rfl⟩]
      rfl
    have hclosed : ∀ bytes, (store.put at_ []).write sink.uri bytes =
        .ok ((store.put at_ []).put at_ bytes) :=
      fun bytes => Store.write_eq_ok_iff.2 ⟨at_, hplace', rfl⟩
    rw [write, hopened]
    simp only [filled, hclosed, Except.toOption, Option.getD_some]
    by_cases hencodable : Encodable sep (header :: rows)
    · rw [fill_texts hrows hencodable]
      simp [hencodable, eq_comm]
    · cases hfault : (fill (delimiterSettings sep) (textRow header)
          ⟨rows.map textRow, none⟩).2 with
      | none => exact absurd (encodable_of_fill hrows hfault) hencodable
      | some fault => simp [hencodable]

end Sink

/-- The source of a file that a sink has written reads it with the settings that it was written
with. -/
theorem Source.opening_delimiter {store : Store} {source : Source}
    (hfile : store.isFile source.uri = true)
    (hsettings : source.settings = .named (delimiterSettings sep)) :
    source.opening store = .ok (delimiterSettings sep) := by
  rw [opening, hfile, hsettings]
  rfl

/-! ### A file in place of the sample -/

theorem isDelimited_delimiter (uri : String) (sep : Char) :
    Source.isDelimited uri (.named (delimiterSettings sep)) = .ok true := by
  have hget : (FileSettings.named (delimiterSettings sep)).get "delimiter" =
      .ok (.text (String.singleton sep)) := rfl
  have htruth : Datum.truth (.text (String.singleton sep) : Arg) = true := by
    simp [Datum.truth]
  rw [Source.isDelimited, hget]
  split_ifs
  · rfl
  · simp [htruth, Except.mapError]

def delimiterSink (sep : Char) : Sink where
  uri := "a.csv"
  settings := .named (delimiterSettings sep)

theorem isFolder_here (store : Store) : store.isFolder "." = true := by
  have hwritable : (Path.unwritable? ".").isNone = true := by decide +kernel
  have hparts : Path.parts "." = ["."] := by
    rw [Path.parts, String.splitOn, if_neg (by decide)]
    iterate 2 rw [String.splitOnAux]
    rfl
  have hroot : Path.root "." = "" := by cbv
  simp only [Store.isFolder, Store.walk, Option.isNone_iff_eq_none.1 hwritable, hparts, hroot]
  rfl

theorem ofArgs_delimiterSink (sep : Char) :
    Sink.ofArgs sampleStore (.text "a.csv") (.named (delimiterSettings sep)) =
      .ok (delimiterSink sep) := by
  have hparent : Path.parent "a.csv" = "" := by
    simp only [Path.parent, parts_sample]
    decide +kernel
  have hfolder : Sink.folder "a.csv" = "." := by simp [Sink.folder, hparent]
  have hpath : Arg.pathText Sink.role (.text "a.csv") = .ok "a.csv" := rfl
  simp [Sink.ofArgs, hpath, isDelimited_delimiter, hfolder, isFolder_here, delimiterSink]

theorem place_delimiterSink (sep : Char) :
    sampleStore.place? (delimiterSink sep).uri = some ["a.csv"] := by
  rw [Store.place?, delimiterSink, sampleStore, walk_sample]
  rfl

/-! ### Back and forth -/

end TablePipeline
