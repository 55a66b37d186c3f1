import Mathlib
import TablePipeline.Proofs.CatalogColumns
import TablePipeline.Proofs.FileRoundTrip
import TablePipeline.Table.Basic

/-!
A file that was written, opened as a table. Whatever values stand in its rows, the header is a row
of texts that is written first and read back first, so the names of the table are those that were
written. The file can be opened if and only if these are all different.
-/
namespace TablePipeline

open Compressed

/-! ### Names that are texts -/

/-- Texts are apart if none of them occurs twice. -/
theorem Names.apart_texts {φ : Type} {texts : List String} :
    Names.Apart (texts.map Datum.text : List (Datum φ)) ↔ texts.Nodup := by
  have hdiffer : ∀ a b : String, (Datum.text a : Datum φ).isMatch (.text b) = false ↔ a ≠ b := by
    intro a b
    rw [← Bool.not_eq_true, Datum.isMatch_text]
    simp
  simp only [Names.Apart, List.pairwise_map, List.Nodup, hdiffer]

theorem mem_textRow {texts : List String} {name : Value} (h : name ∈ textRow texts) :
    ∃ s ∈ texts, name = .text s := by
  obtain ⟨s, hs, rfl⟩ := List.mem_map.1 h
  exact ⟨s, hs, rfl⟩

/-- Texts are keys. -/
theorem unhashable?_of_textRow {texts : List String} :
    ∀ name ∈ textRow texts, Datum.unhashable? name = none := by
  intro name hname
  obtain ⟨s, -, rfl⟩ := mem_textRow hname
  rfl

/-! ### The header of a file -/

/-- What is written is the text. -/
theorem Text.eq_of_encode {cs : List Char} {bytes : List UInt8}
    (h : Coding.encode .utf8 .strict cs = .ok bytes) : bytes = utf8Encode cs := by
  have hencoded := encode_utf8 .strict (encode_utf8_strict_iff.1 ⟨bytes, h⟩)
  rw [h] at hencoded
  exact Except.ok.inj hencoded

/-- Rows that are all written add a text to what was written before. -/
theorem Sink.exists_text_of_writeRows {d : Dialect} {rows : List Row} {written : List Bytes}
    (h : (writeRows d .utf8 .strict rows written).2 = none) :
    ∃ text, (writeRows d .utf8 .strict rows written).1.reverse.flatten =
      written.reverse.flatten ++ Text.utf8Encode text := by
  induction rows generalizing written with
  | nil => exact ⟨[], by simp [writeRows]⟩
  | cons row rows ih =>
    rw [writeRows] at h ⊢
    cases hrow : Delimited.writeRow d row with
    | error stop => simp [hrow] at h
    | ok text =>
      cases hbytes : Text.Coding.encode .utf8 .strict text with
      | error stop => simp [hrow, hbytes] at h
      | ok bytes =>
        simp only [hrow, hbytes] at h ⊢
        obtain ⟨rest, hrest⟩ := ih h
        refine ⟨text ++ rest, ?_⟩
        rw [hrest, Text.eq_of_encode hbytes]
        simp

theorem Sink.assemble_utf8 (written : List Bytes) :
    assemble ⟨.utf8, false⟩ written = written.reverse.flatten := by
  cases written <;> rfl

/-- A file with the usual settings starts with its header. -/
theorem Sink.exists_text_of_fill {header : List String} (hheader : header ≠ []) {rows : Feed Row}
    (h : (fill [] (textRow header) rows).2 = none) :
    ∃ rest, (fill [] (textRow header) rows).1 =
      Text.utf8Encode (Delimited.rowOf ',' (header.map String.toList) ++ rest) := by
  obtain ⟨written, hwritten⟩ : ∃ written, written = writeRows (Delimited.separatedBy ',') .utf8
    .strict (textRow header :: rows.items) [] := ⟨_, rfl⟩
  have hfill : fill [] (textRow header) rows =
      (assemble ⟨.utf8, false⟩ written.1, written.2 <|> rows.fault) := by
    rw [hwritten]
    rfl
  rw [hfill] at h ⊢
  have hall : written.2 = none := by
    cases hstop : written.2 with
    | none => rfl
    | some fault => simp [hstop] at h
  rw [writeRows, textRow, Delimited.writeRow_texts hheader ','] at hwritten
  cases hbytes : Text.Coding.encode .utf8 .strict
      (Delimited.rowOf ',' (header.map String.toList)) with
  | error stop =>
    rw [hwritten] at hall
    simp [hbytes] at hall
  | ok bytes =>
    simp only [hbytes] at hwritten
    rw [hwritten] at hall ⊢
    obtain ⟨rest, hrest⟩ := exists_text_of_writeRows hall
    refine ⟨rest, ?_⟩
    rw [assemble_utf8, hrest, Text.eq_of_encode hbytes]
    simp

namespace Source

/-- Such a file is read with its header as the first row. -/
theorem allRows_of_head {store : Store} {source : Source} {header : List String}
    (hheader : header ≠ []) (hsize : ∀ name ∈ header, name.length ≤ Delimited.fieldLimit)
    (hopen : source.opening store = .ok []) {rest : List Char}
    (hread : store.read source.uri = .ok ((Packing.ofPath source.uri).pack
      (Text.utf8Encode (Delimited.rowOf ',' (header.map String.toList) ++ rest)))) :
    ∃ rows, source.allRows store = .cons (textRow header) rows := by
  have hcoding : codingOf [] = .ok (⟨.utf8, false⟩, .strict) := rfl
  rw [allRows_of_text hopen rfl hread hcoding rfl (textOf_pack source.uri _)]
  have hsome : header.map String.toList ≠ [] := by simpa using hheader
  have hlengths : ∀ field ∈ header.map String.toList, field.length ≤ Delimited.fieldLimit := by
    simpa [String.length_toList] using hsize
  have hquote : ',' ≠ '"' := by decide
  have hrow := Delimited.readOn_row hquote rfl hsome hlengths rest
  have hback : (header.map String.toList).map Delimited.textOf = textRow header := by
    simp [Delimited.textOf, textRow]
  rw [hback] at hrow
  exact ⟨_, hrow⟩

end Source

/-! ### The table of a file -/

namespace Table

/-- The file at a path can be opened as a table with given names if these are all different, and else
is refused on account of the repeated ones. -/
def OpensIfDistinct (store : Store) (path batchSize : Arg) (header : List String) : Prop :=
  (header.Nodup → ∃ t, ofArgs store path (.bool true) batchSize (.named []) = .ok t ∧
    t.names = .ok (textRow header)) ∧
  (¬header.Nodup → ∃ shown, ofArgs store path (.bool true) batchSize (.named []) =
    .error (.schema (.duplicateNames shown)))

variable {store : Store} {path batchSize : Arg} {header : List String} {size : ℕ}

/-- A file that starts with a row of texts. -/
theorem ofArgs_of_head {source : Source} {rows : Feed Row}
    (hsource : Source.ofArgs store path (.bool true) (.named []) = .ok source)
    (hhead : source.haveHeader = true) (hrows : source.allRows store = .cons (textRow header) rows)
    (hsize : batchSizeOf batchSize = .ok size) :
    OpensIfDistinct store path batchSize header := by
  have hfirst : ((source.allRows store).take 1).toExcept = .ok [textRow header] := by
    simp [hrows, Feed.cons, Feed.take, Feed.toExcept]
  have hcolumns : source.columns store = Names.distinct (textRow header) := by
    simp [Source.columns, hfirst, Except.mapError, hhead]
  have hclaim : (textRow header).zipIdx.map (fun entry => entry.1.claim entry.2) =
      textRow header := by
    refine (List.map_congr_left fun entry hentry => ?_).trans (List.zipIdx_map_fst 0 _)
    obtain ⟨s, -, hs⟩ := mem_textRow (List.fst_mem_of_mem_zipIdx hentry)
    rw [hs]
    rfl
  constructor
  · intro hnodup
    have hapart : Names.Apart (textRow header) := Names.apart_texts.2 hnodup
    have hdistinct := Names.distinct_eq_ok.2 ⟨rfl, unhashable?_of_textRow, hapart⟩
    obtain ⟨c, hc, -, -, hshown⟩ := Catalog.exists_ofNames hapart unhashable?_of_textRow
    refine ⟨{ source, header := textRow header, batchSize := size, catalog := c }, ?_, ?_⟩
    · rw [ofArgs, hsource, ok_bind, hsize, ok_bind, hcolumns, hdistinct, ok_bind, hclaim]
      dsimp only
      rw [hc, ok_bind]
    · have hcolumns : c.columns = (List.range (textRow header).length).zip (textRow header) :=
        congrArg Shown.columns hshown
      have hnames : c.names = textRow header := by
        rw [← Catalog.map_snd_columns, hcolumns, List.map_snd_zip (by simp)]
      rw [names, ← hnames]
      rfl
  · intro hrepeated
    have hagain : Names.repeats (textRow header) ≠ [] := fun hnone =>
      hrepeated (Names.apart_texts.1 ((Names.repeats_eq_nil_iff _).1 hnone))
    have hkeys : (textRow header).forM Datum.requireKey = .ok () :=
      Names.forM_requireKey_eq_ok.2 unhashable?_of_textRow
    refine ⟨(Datum.list (Names.repeats (textRow header))).literal, ?_⟩
    rw [ofArgs, hsource, ok_bind, hsize, ok_bind, hcolumns, Names.distinct, hkeys]
    simp [Except.mapError, hagain]

/-- What a run has written, under the names of its plan. -/
theorem opens_of_execute {b : Backend} {p : Plan} {sink : Sink} {before : Store} {report : Report}
    (hnames : p.names = textRow header) (hheader : header ≠ [])
    (hfields : ∀ name ∈ header, name.length ≤ Delimited.fieldLimit)
    (hsink : Sink.ofArgs before path (.named []) = .ok sink)
    (hrun : b.execute p sink before = (.ok report, store)) (hsize : batchSizeOf batchSize = .ok size) :
    OpensIfDistinct store path batchSize header := by
  obtain ⟨-, -, hsettings⟩ := Sink.ofArgs_eq_ok hsink
  have hwrite := Backend.write_of_execute b p sink before
  rw [hrun, hnames] at hwrite
  obtain ⟨fault, hfault, -⟩ | ⟨at_, settings, hplace, hopening, hstore, hended⟩ :=
    Sink.write_cases hwrite.symm
  · cases hfault
  change store = _ at hstore
  obtain ⟨hfill, -⟩ | ⟨fault, hfault⟩ := hended
  swap
  · cases hfault
  obtain rfl : settings = [] := by
    have husual : sink.opening = .ok [] := by rw [Sink.opening, hsettings]; rfl
    exact Except.ok.inj (hopening.symm.trans husual)
  obtain ⟨rest, hrest⟩ := Sink.exists_text_of_fill hheader hfill
  have hplace' : (before.put at_ []).place? sink.uri = some at_ := by
    rw [Store.place?, Store.walk_put_of_place hplace, Spot.place?]
  have hfile : store.isFile sink.uri = true := by
    rw [hstore, Store.isFile, Store.walk_put_of_place hplace']
  have hread := Store.read_put_of_place hplace'
    (sink.fileOf [] (textRow header) (b.output (before.put at_ []) p).toFeed.items)
  rw [← hstore, Sink.fileOf, ← Sink.fill_fst, hrest] at hread
  have hopen : Source.opening store { uri := sink.uri, settings := .named [] } = .ok [] := by
    simp only [Source.opening, hfile]
    rfl
  obtain ⟨rows, hrows⟩ := Source.allRows_of_head hheader hfields hopen hread
  exact ofArgs_of_head (Sink.source_of_sink hsink hfile) rfl hrows hsize

end Table

end TablePipeline
