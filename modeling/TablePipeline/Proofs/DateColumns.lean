import Mathlib
import TablePipeline.Column.Type
import TablePipeline.Proofs.DayReading
import TablePipeline.Proofs.FileRoundTrip

/-!
Columns of days that are written and read back. A day from the year 1000 on comes back as it was, and
so does a cell without one, also through a file. An earlier day does not: its year is written with
fewer digits than are read. Nor does any day whose pattern cannot be written as it stands, because of
a NUL, at which the pattern ends, or of half of a pair of surrogates, which has no bytes.
-/
namespace TablePipeline

open Calendar Text

namespace Calendar.DayPattern

/-- The text between the fields can be written as it stands. -/
def Writable (P : DayPattern) : Prop :=
  ∀ c ∈ P.left ++ P.right, c ≠ '\x00' ∧ surrogate? c = none

/-- What is written into the cell of a day, or of nothing. -/
def cell (P : DayPattern) : Value → String
  | .date d => String.ofList (P.written d)
  | _ => ""

variable (P : DayPattern)

theorem solid_written (d : Date) : ∀ c ∈ P.written d, isBlank c = false := by
  have hfield : ∀ (f : DayField), ∀ c ∈ f.written d, isBlank c = false := fun f c hc =>
    isBlank_of_digit (by rw [digitValue?_of_isDigit (f.isDigit_written d c hc)]; rfl)
  simp only [written, List.mem_append]
  rintro c (hc | hc | hc | hc | hc)
  · exact hfield _ c hc
  · exact P.left_separator.no_blank c hc
  · exact hfield _ c hc
  · exact P.right_separator.no_blank c hc
  · exact hfield _ c hc

theorem surrogate?_written (hwritable : P.Writable) (d : Date) :
    ∀ c ∈ P.written d, surrogate? c = none := by
  have hfield : ∀ (f : DayField), ∀ c ∈ f.written d, surrogate? c = none := by
    intro f c hc
    have hrange : c.toNat ≤ 57 := by
      have hdigit := f.isDigit_written d c hc
      have : 48 ≤ c.toNat ∧ c.toNat ≤ 57 := by
        simpa [Char.isDigit, UInt32.le_iff_toNat_le] using hdigit
      exact this.2
    exact surrogate?_eq_none (by rw [surrogatePlane]; omega)
  simp only [written, List.mem_append]
  rintro c (hc | hc | hc | hc | hc)
  · exact hfield _ c hc
  · exact (hwritable c (List.mem_append_left _ hc)).2
  · exact hfield _ c hc
  · exact (hwritable c (List.mem_append_right _ hc)).2
  · exact hfield _ c hc

theorem surrogate?_cell (hwritable : P.Writable) (v : Value) :
    ∀ c ∈ (P.cell v).toList, surrogate? c = none := by
  unfold cell
  split
  · rw [String.toList_ofList]
    exact P.surrogate?_written hwritable _
  · simp

theorem length_cell (v : Value) : (P.cell v).length ≤ P.left.length + P.right.length + 8 := by
  unfold cell
  split
  · next d =>
    have hsum : (P.first.written d).length + ((P.second.written d).length +
        (P.third.written d).length) = (DayField.year.written d).length + 4 := by
      have hfields := (P.each_once.map fun f => (f.written d).length).sum_eq
      obtain ⟨hmonth, hday, -⟩ := DayField.length_written d
      simpa [hmonth, hday] using hfields
    have hyear := (DayField.year.length_bounds d).2
    rw [String.length_ofList]
    simp only [written, List.length_append]
    omega
  · simp

/-- A pattern has bytes if what stands between its fields has. -/
theorem surrogate?_chars : (∀ c ∈ P.chars, surrogate? c = none) ↔
    ∀ c ∈ P.left ++ P.right, surrogate? c = none := by
  have hletter : ∀ f : DayField, surrogate? f.letter = none := by
    intro f
    refine surrogate?_eq_none ?_
    cases f <;> decide
  have hpercent : surrogate? '%' = none := surrogate?_eq_none (by decide)
  simp only [chars, List.mem_cons, List.mem_append, List.not_mem_nil, or_false, or_imp, forall_and,
    forall_eq, hletter, hpercent, true_and, and_true]

end Calendar.DayPattern

namespace ColumnType

open Calendar.DayPattern

variable {P : DayPattern} {pattern : Option String}

theorem requireBytes_text (P : DayPattern) :
    requireBytes P.text = .ok () ↔ ∀ c ∈ P.left ++ P.right, surrogate? c = none := by
  rw [← P.surrogate?_chars, ← encode_utf8_strict_iff, requireBytes, P.toList_text]
  cases Coding.encode .utf8 .strict P.chars with
  | ok bytes => exact iff_of_true rfl ⟨bytes, rfl⟩
  | error fault => exact iff_of_false nofun (by rintro ⟨bytes, h⟩; cases h)

theorem format_date_eq_ok {d : Date} {w : String} (hpattern : datePattern pattern = P.text) :
    (date pattern).format (.date d) = .ok (.text w) ↔
      (∀ c ∈ P.left ++ P.right, surrogate? c = none) ∧ w = formatDate P.text d := by
  rw [← requireBytes_text]
  simp only [format, hpattern, dateText]
  cases requireBytes P.text with
  | error fault => exact iff_of_false nofun (by rintro ⟨h, -⟩; cases h)
  | ok u =>
    simp only [ok_bind, Except.ok.injEq, Datum.text.injEq, true_and]
    exact eq_comm

/-- A day is read from a text without the blanks around it, if anything is left. -/
theorem parse_date_text (hpattern : datePattern pattern = P.text) (s : String) (d : Date) :
    (date pattern).parse (.text s) = .ok (.date d) ↔
      trim s.toList ≠ [] ∧ scanDate P.text (strip s) = .ok d := by
  have hwritten : Datum.written (.text s : Value) = .ok s := rfl
  by_cases hblank : trim s.toList = []
  · simp [parse, toDate, isMissing, hblank]
  · simp only [parse, hpattern, toDate, isMissing, List.isEmpty_iff, hblank, hwritten, ok_bind, if_false]
    cases scanDate P.text (strip s) <;> simp [Except.mapError, hblank]

/-- A day comes back from its cell if its year has four digits and the pattern can be written. -/
theorem date_readBack_iff (hpattern : datePattern pattern = P.text) (d : Date) :
    (∃ w, (date pattern).format (.date d) = .ok (.text w) ∧
      (date pattern).parse (.text w) = .ok (.date d)) ↔ 1000 ≤ d.year ∧ P.Writable := by
  simp only [format_date_eq_ok hpattern, parse_date_text hpattern]
  constructor
  · rintro ⟨w, ⟨hsurrogate, rfl⟩, -, hscan⟩
    have hnul : '\x00' ∉ P.left ∧ '\x00' ∉ P.right := by
      by_contra hsome
      have hshort := P.length_formatDate d (by tauto)
      refine P.scanDate_short ?_ d hscan
      rw [strip, String.toList_ofList]
      exact (length_trim_le _).trans_lt hshort
    refine ⟨?_, fun c hc => ⟨?_, hsurrogate c hc⟩⟩
    · by_contra hyear
      rw [P.formatDate_text d hnul.1 hnul.2, strip, String.toList_ofList,
        trim_of_solid (P.solid_written d), P.scanDate_early (not_le.1 hyear)] at hscan
      cases hscan
    · rintro rfl
      exact (List.mem_append.1 hc).elim hnul.1 hnul.2
  · rintro ⟨hyear, hwritable⟩
    have hwritten := P.formatDate_text d (fun h => (hwritable _ (List.mem_append_left _ h)).1 rfl)
      fun h => (hwritable _ (List.mem_append_right _ h)).1 rfl
    refine ⟨_, ⟨fun c hc => (hwritable c hc).2, rfl⟩, ?_⟩
    rw [hwritten, strip, String.toList_ofList, trim_of_solid (P.solid_written d)]
    refine ⟨?_, P.scanDate_written hyear⟩
    exact List.append_ne_nil_of_left_ne_nil
      (List.ne_nil_of_length_pos (P.first.length_bounds d).1) _

/-- What is read is a day or nothing. -/
theorem date_or_null_of_parse {cell v : Value} (h : (date pattern).parse cell = .ok v) :
    v = .null ∨ ∃ d, v = .date d := by
  simp only [parse] at h
  unfold toDate at h
  split_ifs at h
  · exact .inl (Except.ok.inj h).symm
  · split at h
    · exact .inr ⟨_, (Except.ok.inj h).symm⟩
    · exact .inr ⟨_, (Except.ok.inj h).symm⟩
    · obtain ⟨text, -, h⟩ := bind_eq_ok.1 h
      obtain ⟨d, -, h⟩ := bind_eq_ok.1 h
      exact .inr ⟨d, (Except.ok.inj h).symm⟩

/-- The text of a cell of days that is read back. -/
theorem format_cell (hpattern : datePattern pattern = P.text) (hwritable : P.Writable) {v : Value}
    (hv : v = .null ∨ ∃ d, v = .date d ∧ 1000 ≤ d.year) :
    (date pattern).format v = .ok (.text (P.cell v)) ∧
      (date pattern).parse (.text (P.cell v)) = .ok v := by
  rcases hv with rfl | ⟨d, rfl, hyear⟩
  · exact ⟨rfl, rfl⟩
  · obtain ⟨w, hformat, hparse⟩ := (date_readBack_iff hpattern d).2 ⟨hyear, hwritable⟩
    obtain ⟨-, rfl⟩ := (format_date_eq_ok hpattern).1 hformat
    have hwritten := P.formatDate_text d (fun h => (hwritable _ (List.mem_append_left _ h)).1 rfl)
      fun h => (hwritable _ (List.mem_append_right _ h)).1 rfl
    have hcell : P.cell (.date d) = formatDate P.text d := hwritten.symm
    rw [hcell]
    exact ⟨hformat, hparse⟩

end ColumnType

/-! ### Through a file -/

/-- Texts that a sink has written are what its file holds. -/
theorem Sink.rows_of_write {store store' : Store} {path : Arg} {sink : Sink} {sep : Char}
    {header : List String} {rows : List (List String)} {count : ℕ}
    (hsep : sep ≠ '"' ∧ sep ≠ '\r' ∧ sep ≠ '\n') (hrows : ∀ row ∈ header :: rows, row ≠ [])
    (hsize : ∀ row ∈ header :: rows, ∀ cell ∈ row, cell.length ≤ Delimited.fieldLimit)
    (hsink : Sink.ofArgs store path (.named (delimiterSettings sep)) = .ok sink)
    (hwrite : sink.write (textRow header) (fun _ => ⟨rows.map textRow, none⟩) store =
      (.ok count, store')) :
    ∃ source, Source.ofArgs store' path (.bool true) (.named (delimiterSettings sep)) = .ok source ∧
      source.rows store' = ⟨rows.map textRow, none⟩ := by
  obtain ⟨-, -, hsettings⟩ := ofArgs_eq_ok hsink
  obtain ⟨-, -, at_, hat, rfl⟩ := (write_texts_iff hsettings hrows).1 hwrite
  have hplace : (store.put at_ []).place? sink.uri = some at_ := by
    rw [Store.place?, Store.walk_put_of_place hat, Spot.place?]
  have hfile : ∀ bytes, ((store.put at_ []).put at_ bytes).isFile sink.uri = true := by
    intro bytes
    rw [Store.isFile, Store.walk_put_of_place hplace]
  have hend : Delimited.isLineEnd sep = false := by simp [Delimited.isLineEnd, hsep]
  have hall := @Source.allRows_texts sep _
    { uri := sink.uri, settings := .named (delimiterSettings sep) } (header :: rows) hsep.1 hend
    hrows hsize (Source.opening_delimiter (hfile _) rfl) (Store.read_put_of_place hplace _)
  refine ⟨_, source_of_sink hsink (hfile _), ?_⟩
  rw [Source.rows, hall]
  rfl

namespace ColumnType

variable {P : DayPattern} {pattern : Option String}

/-- Days are written and read back. A day comes back from the text that is written of it if and only
if its year has four digits and the text between the fields can be written. So does everything else
that is read from cells, which is nothing: rows of what was read from cells, without a day before the
year 1000, are written into a file whose rows are read back as they were. -/
theorem date_readBack (hpattern : datePattern pattern = P.text) :
    (∀ d : Date, (∃ w, (date pattern).format (.date d) = .ok (.text w) ∧
      (date pattern).parse (.text w) = .ok (.date d)) ↔ 1000 ≤ d.year ∧ P.Writable) ∧
    ∀ (store : Store) (path : Arg) (sink : Sink) (sep : Char) (header : List String)
      (rows : List (List Value)),
      P.Writable → P.left.length + P.right.length + 8 ≤ Delimited.fieldLimit →
      (∀ row ∈ rows, ∀ v ∈ row, (∃ cell, (date pattern).parse cell = .ok v) ∧
        ∀ d, v = .date d → 1000 ≤ d.year) →
      header ≠ [] → (∀ row ∈ rows, row.length = header.length) →
      (∀ name ∈ header, name.length ≤ Delimited.fieldLimit) → Encodable sep [header] →
      sep ≠ '"' ∧ sep ≠ '\r' ∧ sep ≠ '\n' →
      Sink.ofArgs store path (.named (delimiterSettings sep)) = .ok sink →
      (store.place? sink.uri).isSome →
      ∃ cells : List (List String),
        rows.mapM (List.mapM (date pattern).format) = .ok (cells.map textRow) ∧
        ∃ store' source,
          sink.write (textRow header) (fun _ => ⟨cells.map textRow, none⟩) store =
            (.ok rows.length, store') ∧
          Source.ofArgs store' path (.bool true) (.named (delimiterSettings sep)) = .ok source ∧
          source.rows store' = ⟨cells.map textRow, none⟩ ∧
          (cells.map textRow).mapM (List.mapM (date pattern).parse) = .ok rows := by
  refine ⟨date_readBack_iff hpattern, ?_⟩
  intro store path sink sep header rows hwritable hlength hread hheader hwidth hnames hencodable hsep
    hsink hplace
  have hcell : ∀ row ∈ rows, ∀ v ∈ row, (date pattern).format v = .ok (.text (P.cell v)) ∧
      (date pattern).parse (.text (P.cell v)) = .ok v := by
    intro row hrow v hv
    obtain ⟨⟨cell, hparse⟩, hyear⟩ := hread row hrow v hv
    refine format_cell hpattern hwritable ?_
    exact (date_or_null_of_parse hparse).imp_right fun ⟨d, hd⟩ => ⟨d, hd, hyear d hd⟩
  have hback : ∀ row ∈ rows, row.mapM (date pattern).format = .ok (textRow (row.map P.cell)) ∧
      (textRow (row.map P.cell)).mapM (date pattern).parse = .ok row := by
    intro row hrow
    rw [textRow, List.map_map, mapM_map, mapM_eq_ok_iff, mapM_eq_ok_iff, List.map_map]
    exact ⟨List.map_congr_left fun v hv => (hcell row hrow v hv).1,
      List.map_congr_left fun v hv => (hcell row hrow v hv).2⟩
  have hall : ∀ row ∈ header :: rows.map (List.map P.cell), row ≠ [] := by
    refine List.forall_mem_cons.2 ⟨hheader, List.forall_mem_map.2 fun row hrow hnil => ?_⟩
    have hempty := hwidth row hrow
    rw [List.map_eq_nil_iff.1 hnil] at hempty
    exact hheader (List.length_eq_zero_iff.1 hempty.symm)
  have hsize : ∀ row ∈ header :: rows.map (List.map P.cell), ∀ cell ∈ row,
      cell.length ≤ Delimited.fieldLimit := by
    refine List.forall_mem_cons.2 ⟨hnames, List.forall_mem_map.2 fun row hrow => ?_⟩
    exact List.forall_mem_map.2 fun v _ => (P.length_cell v).trans hlength
  have hbytes : Encodable sep (header :: rows.map (List.map P.cell)) := by
    refine List.forall_mem_cons.2 ⟨hencodable header List.mem_cons_self, ?_⟩
    refine List.forall_mem_map.2 fun row hrow => ⟨?_, ?_⟩
    · exact List.forall_mem_map.2 fun v _ => P.surrogate?_cell hwritable v
    · rw [List.length_map, hwidth row hrow]
      exact (hencodable header List.mem_cons_self).2
  obtain ⟨at_, hat⟩ := Option.isSome_iff_exists.1 hplace
  obtain ⟨-, -, hsettings⟩ := Sink.ofArgs_eq_ok hsink
  have hwrite := (Sink.write_texts_iff hsettings hall).2 ⟨hbytes, rfl, at_, hat, rfl⟩
  obtain ⟨source, hsource, hrows⟩ := Sink.rows_of_write hsep hall hsize hsink hwrite
  refine ⟨rows.map (List.map P.cell), ?_, _, source, ?_, hsource, hrows, ?_⟩
  · rw [mapM_eq_ok_iff, List.map_map, List.map_map]
    exact List.map_congr_left fun row hrow => (hback row hrow).1
  · rw [hwrite, List.length_map]
  · rw [List.map_map, mapM_map, mapM_eq_ok_iff]
    exact List.map_congr_left fun row hrow => (hback row hrow).2

/-- The pattern of days with dashes between. -/
def dashes : DayPattern where
  first := .year
  second := .month
  third := .day
  left := ['-']
  right := ['-']
  each_once := .refl _
  left_separator := ⟨by simp, by simp [digitValue?], by simp [isBlank], by simp⟩
  right_separator := ⟨by simp, by simp [digitValue?], by simp [isBlank], by simp⟩

theorem datePattern_dashes : datePattern none = dashes.text := by decide

theorem writable_dashes : dashes.Writable := by
  have hdash : surrogate? '-' = none := surrogate?_eq_none (by decide)
  simp [DayPattern.Writable, dashes, hdash]

theorem date_readBack_dashes :
    (∃ w, (date none).format (.date ⟨2024, 2, 29, by decide⟩) = .ok (.text w) ∧
      (date none).parse (.text w) = .ok (.date ⟨2024, 2, 29, by decide⟩)) ∧
    ∃ cells : List (List String),
      [[.date ⟨2024, 2, 29, by decide⟩], [.null]].mapM (List.mapM (date none).format) =
        .ok (cells.map textRow) ∧
      ∃ store' source,
        (delimiterSink ';').write (textRow ["day"]) (fun _ => ⟨cells.map textRow, none⟩) sampleStore =
          (.ok 2, store') ∧
        Source.ofArgs store' (.text "a.csv") (.bool true) (.named (delimiterSettings ';')) =
          .ok source ∧
        source.rows store' = ⟨cells.map textRow, none⟩ ∧
        (cells.map textRow).mapM (List.mapM (date none).parse) =
          .ok [[.date ⟨2024, 2, 29, by decide⟩], [.null]] := by
  have hback := date_readBack datePattern_dashes
  refine ⟨(hback.1 _).2 ⟨by decide, writable_dashes⟩, ?_⟩
  refine hback.2 sampleStore (.text "a.csv") (delimiterSink ';') ';' ["day"] _ writable_dashes
    (by decide) ?_ (by decide) (by decide) (by decide) ?_ (by decide) (ofArgs_delimiterSink ';')
    (by rw [place_delimiterSink]; rfl)
  · have hday : (date none).parse (.date ⟨2024, 2, 29, by decide⟩) =
        .ok (.date ⟨2024, 2, 29, by decide⟩) := rfl
    have hnothing : (date none).parse .null = .ok .null := rfl
    simp only [List.forall_mem_cons, List.not_mem_nil, false_imp_iff, implies_true, and_true]
    exact ⟨⟨⟨_, hday⟩, fun d hd => Datum.date.inj hd ▸ by decide⟩, ⟨_, hnothing⟩, fun d hd => by cases hd⟩
  · have hbelow : ∀ c ∈ "day".toList, c.toNat < surrogatePlane := by simp [surrogatePlane]
    exact List.forall_mem_singleton.2
      ⟨List.forall_mem_singleton.2 fun c hc => surrogate?_eq_none (hbelow c hc), .inl rfl⟩

/-- A year before 1000 is written with three digits, which are not read. -/
theorem date_readBack_early : ∃ d : Date,
    (date none).parse (.text "0999-01-02") = .ok (.date d) ∧
    (date none).format (.date d) = .ok (.text "999-01-02") ∧
    (date none).parse (.text "999-01-02") =
      .error (.scan (.mismatch "999-01-02" "%Y-%m-%d")) := by
  refine ⟨⟨999, 1, 2, by decide⟩, by rfl, ?_, by rfl⟩
  rw [format_date_eq_ok datePattern_dashes]
  refine ⟨fun c hc => (writable_dashes c hc).2, ?_⟩
  rw [dashes.formatDate_text _ (by decide) (by decide)]
  rfl

end ColumnType

end TablePipeline
