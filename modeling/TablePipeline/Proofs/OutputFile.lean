import Mathlib
import TablePipeline.Proofs.EmptiedSource
import TablePipeline.Proofs.SourceText

/-!
The output file of a run. It is opened, and thereby emptied, before the first row is read; what the
run writes are the rows that its sources have from then on. This makes no difference to a run whose
output is a file of its own. A source that is read back from the place of the output has no rows
left, and the run reports success all the same.
-/
namespace TablePipeline

namespace Sink

/-- The bytes of a file with the header and some rows, up to the first that cannot be written. -/
def fileOf (sink : Sink) (settings : Settings) (header : Row) (rows : List Row) : Bytes :=
  (Compressed.Packing.ofPath sink.uri).pack (fill settings header ⟨rows, none⟩).1

/-- The output holds the header and the rows, and their number is what is reported. -/
def Holds (sink : Sink) (settings : Settings) (header : Row) (rows : List Row) (store : Store)
    (reported : ℕ) : Prop :=
  reported = rows.length ∧ store.read sink.uri = .ok (sink.fileOf settings header rows)

theorem fill_fst (settings : Settings) (header : Row) (rows : Feed Row) :
    (fill settings header rows).1 = (fill settings header ⟨rows.items, none⟩).1 := by
  unfold fill
  cases Source.codingOf settings with
  | error stop => rfl
  | ok coding => cases Dialect.ofSettings (settings.without ownSettings) <;> rfl

theorem fault_of_fill {settings : Settings} {header : Row} {rows : Feed Row}
    (h : (fill settings header rows).2 = none) : rows.fault = none := by
  unfold fill at h
  cases hcoding : Source.codingOf settings with
  | error stop => simp [hcoding] at h
  | ok coding =>
    cases hdialect : Dialect.ofSettings (settings.without ownSettings) with
    | error stop => simp [hcoding, hdialect] at h
    | ok dialect =>
      simp only [hcoding, hdialect, Option.orElse_eq_orElse, Option.orElse_eq_or,
        Option.or_eq_none_iff] at h
      exact h.2

/-- A sink that was opened has emptied its place. -/
theorem opened_eq_ok {sink : Sink} {store store' : Store} {settings : Settings}
    (h : sink.opened store = .ok (store', settings)) :
    sink.opening = .ok settings ∧ ∃ at_, store.place? sink.uri = some at_ ∧ store' = store.put at_ [] := by
  obtain ⟨settings', hopening, h⟩ := bind_eq_ok.1 h
  cases hwrite : store.write sink.uri [] with
  | error stop => simp [hwrite] at h
  | ok written =>
    simp only [hwrite, pure_eq_ok, Except.ok.injEq, Prod.mk.injEq] at h
    obtain ⟨rfl, rfl⟩ := h
    exact ⟨mapError_eq_ok.1 hopening, Store.write_eq_ok_iff.1 hwrite⟩

/-- A sink that was opened leaves, at its place, what was written up to the end of the rows or to the
first failure. -/
theorem write_cases {sink : Sink} {header : Row} {produce : Store → Feed Row} {store store' : Store}
    {outcome : Except Fault ℕ} (h : sink.write header produce store = (outcome, store')) :
    (∃ fault, outcome = .error fault ∧ store' = store) ∨
      ∃ at_ settings, store.place? sink.uri = some at_ ∧ sink.opening = .ok settings ∧
        store' = (store.put at_ []).put at_
          (sink.fileOf settings header (produce (store.put at_ [])).items) ∧
        (((fill settings header (produce (store.put at_ []))).2 = none ∧
            outcome = .ok (produce (store.put at_ [])).items.length) ∨
          ∃ fault, outcome = .error fault) := by
  unfold write at h
  cases hopened : sink.opened store with
  | error fault =>
    simp only [hopened, Prod.mk.injEq] at h
    exact .inl ⟨fault, h.1.symm, h.2.symm⟩
  | ok opened =>
    obtain ⟨emptied, settings⟩ := opened
    obtain ⟨hopening, at_, hplace, rfl⟩ := opened_eq_ok hopened
    have hplace' : (store.put at_ []).place? sink.uri = some at_ := by
      rw [Store.place?, Store.walk_put_of_place hplace, Spot.place?]
    have hclosed : ∀ bytes, (store.put at_ []).write sink.uri bytes =
        .ok ((store.put at_ []).put at_ bytes) :=
      fun bytes => Store.write_eq_ok_iff.2 ⟨at_, hplace', rfl⟩
    simp only [hopened, filled, hclosed, Except.toOption, Option.getD_some] at h
    rw [fill_fst] at h
    refine .inr ⟨at_, settings, hplace, hopening, ?_⟩
    cases hfault : (fill settings header (produce (store.put at_ []))).2 with
    | none =>
      simp only [hfault, Prod.mk.injEq] at h
      exact ⟨h.2.symm, .inl ⟨rfl, h.1.symm⟩⟩
    | some fault =>
      simp only [hfault, Prod.mk.injEq] at h
      exact ⟨h.2.symm, .inr ⟨_, h.1.symm⟩⟩

/-- What is left behind by a run into a sink that reports success. -/
structure Wrote (sink : Sink) (settings : Settings) (at_ : Location) (header : Row)
    (produce : Store → Feed Row) (sources : List Source) (needsRows : Bool) (store store' : Store)
    (reported : ℕ) : Prop where
  place : store.place? sink.uri = some at_
  opened : sink.opening = .ok settings
  /-- The rows are made from the storage in which the output is already empty. -/
  ended : (produce (store.put at_ [])).fault = none
  /-- Only the rows that were made count: any others are as many, and make the same file. -/
  holds : ∀ rows, sink.Holds settings header rows store' reported ↔
    rows.length = (produce (store.put at_ [])).items.length ∧
      sink.fileOf settings header rows =
        sink.fileOf settings header (produce (store.put at_ [])).items
  elsewhere : ∀ there, there ≠ at_ → store'.content? there = store.content? there
  /-- They are the rows of the storage as it was, if no source is in the place of the output. -/
  kept : (∀ source ∈ sources, store.place? source.uri ≠ some at_) →
    sink.Holds settings header (produce store).items store' reported
  /-- A source in the place of the output has no rows left. -/
  lost : ∀ source ∈ sources, store.place? source.uri = some at_ → source.RowsInFile →
    (source.rows (store.put at_ [])).items = []
  /-- If all sources are there, the output holds the rows of the storage as it was if and only if
  there were none. -/
  emptied : needsRows = true →
    (∀ source ∈ sources, store.place? source.uri = some at_ ∧ source.RowsInFile) →
      reported = 0 ∧ (sink.Holds settings header (produce store).items store' reported ↔
        (produce store).items = [])

/-- What is left behind by a run into a sink that raises once the output is open: in the place of the
output, and only there, what was written up to then, also if that was the place of a source. -/
structure Abandoned (sink : Sink) (settings : Settings) (at_ : Location) (header : Row)
    (produce : Store → Feed Row) (store store' : Store) : Prop where
  place : store.place? sink.uri = some at_
  opened : sink.opening = .ok settings
  partly : store'.content? at_ =
    some (sink.fileOf settings header (produce (store.put at_ [])).items)
  elsewhere : ∀ there, there ≠ at_ → store'.content? there = store.content? there

/-- What a run into a sink leaves behind, by its outcome. -/
def Leaves (sink : Sink) (header : Row) (produce : Store → Feed Row) (sources : List Source)
    (needsRows : Bool) (store : Store) : Except Fault ℕ × Store → Prop
  | (.ok reported, store') => ∃ at_ settings,
      sink.Wrote settings at_ header produce sources needsRows store store' reported
  | (.error _, store') => store' = store ∨ ∃ at_ settings,
      sink.Abandoned settings at_ header produce store store'

/-- A sink that could be filled, with rows that depend on the rows of the sources alone and that need
some. -/
theorem wrote_of_place {sink : Sink} {settings : Settings} {at_ : Location} {header : Row}
    {produce : Store → Feed Row} {store : Store} {sources : List Source} {needsRows : Bool}
    (hreads : ∀ before after, (∀ source ∈ sources, source.rows before = source.rows after) →
      produce before = produce after)
    (hnone : ∀ before, needsRows = true → (∀ source ∈ sources, (source.rows before).items = []) →
      (produce before).items = [])
    (hplace : store.place? sink.uri = some at_) (hopening : sink.opening = .ok settings)
    (hfill : (fill settings header (produce (store.put at_ []))).2 = none) :
    sink.Wrote settings at_ header produce sources needsRows store
      ((store.put at_ []).put at_ (sink.fileOf settings header (produce (store.put at_ [])).items))
      (produce (store.put at_ [])).items.length := by
  have hplace' : (store.put at_ []).place? sink.uri = some at_ := by
    rw [Store.place?, Store.walk_put_of_place hplace, Spot.place?]
  have hholds : ∀ rows : List Row, sink.Holds settings header rows
      ((store.put at_ []).put at_ (sink.fileOf settings header (produce (store.put at_ [])).items))
      (produce (store.put at_ [])).items.length ↔
        rows.length = (produce (store.put at_ [])).items.length ∧
          sink.fileOf settings header rows =
            sink.fileOf settings header (produce (store.put at_ [])).items := by
    intro rows
    rw [Holds, Store.read_put_of_place hplace', Except.ok.injEq, eq_comm,
      @eq_comm Bytes]
  have hlost : ∀ source ∈ sources, store.place? source.uri = some at_ → source.RowsInFile →
      (source.rows (store.put at_ [])).items = [] :=
    fun source _ hat hrows => Source.rows_put_of_place hat hrows
  refine ⟨hplace, hopening, fault_of_fill hfill, hholds, ?_, ?_, hlost, ?_⟩
  · intro there hthere
    simp [Store.content?_put, hthere]
  · intro hapart
    have hsame : produce store = produce (store.put at_ []) :=
      (hreads _ _ fun source hsource => Source.rows_put_of_elsewhere (hapart source hsource) []).symm
    exact (hholds _).2 ⟨by rw [hsame], by rw [hsame]⟩
  · intro hneeds hall
    have hempty : (produce (store.put at_ [])).items = [] :=
      hnone _ hneeds fun source hsource =>
        hlost source hsource (hall source hsource).1 (hall source hsource).2
    refine ⟨by rw [hempty]; rfl, (hholds _).trans ?_⟩
    rw [hempty]
    exact ⟨fun h => List.length_eq_zero_iff.1 h.1, fun h => by rw [h]; exact ⟨rfl, rfl⟩⟩

theorem leaves_of_write {sink : Sink} {header : Row} {produce : Store → Feed Row} {store : Store}
    {sources : List Source} {needsRows : Bool}
    (hreads : ∀ before after, (∀ source ∈ sources, source.rows before = source.rows after) →
      produce before = produce after)
    (hnone : ∀ before, needsRows = true → (∀ source ∈ sources, (source.rows before).items = []) →
      (produce before).items = []) :
    sink.Leaves header produce sources needsRows store (sink.write header produce store) := by
  cases hrun : sink.write header produce store with
  | mk outcome store' =>
    rcases write_cases hrun with ⟨fault, rfl, rfl⟩ | ⟨at_, settings, hplace, hopening, rfl, hend⟩
    · exact .inl rfl
    · rcases hend with ⟨hfill, rfl⟩ | ⟨fault, rfl⟩
      · exact ⟨at_, settings, wrote_of_place hreads hnone hplace hopening hfill⟩
      · refine .inr ⟨at_, settings, hplace, hopening, by rw [Store.content?_put, if_pos rfl], ?_⟩
        intro there hthere
        simp [Store.content?_put, hthere]

/-- Rows that are written when no source is in the place of the output. -/
theorem holds_of_write {sink : Sink} {header : Row} {produce : Store → Feed Row}
    {store left : Store} {sources : List Source} {reported : ℕ}
    (hreads : ∀ before after, (∀ source ∈ sources, source.rows before = source.rows after) →
      produce before = produce after)
    (hapart : ∀ source ∈ sources, store.place? sink.uri ≠ store.place? source.uri)
    (h : sink.write header produce store = (.ok reported, left)) :
    (produce store).fault = none ∧ ∃ settings, sink.opening = .ok settings ∧
      sink.Holds settings header (produce store).items left reported := by
  have hleaves : sink.Leaves header produce sources false store (.ok reported, left) :=
    h ▸ leaves_of_write hreads fun _ hneeds _ => by cases hneeds
  obtain ⟨at_, settings, hwrote⟩ := hleaves
  have helsewhere : ∀ source ∈ sources, store.place? source.uri ≠ some at_ :=
    fun source hsource hthere => hapart source hsource (hwrote.place.trans hthere.symm)
  have hsame : produce (store.put at_ []) = produce store :=
    hreads _ _ fun source hsource => Source.rows_put_of_elsewhere (helsewhere source hsource) []
  exact ⟨hsame ▸ hwrote.ended, settings, hwrote.opened, hwrote.kept helsewhere⟩

/-- What is left behind does not depend on how a failure is reported. -/
theorem Leaves.mapError {sink : Sink} {header : Row} {produce : Store → Feed Row}
    {sources : List Source} {needsRows : Bool} {store : Store} {run : Except Fault ℕ × Store}
    (h : sink.Leaves header produce sources needsRows store run) (wrap : Fault → Fault) :
    sink.Leaves header produce sources needsRows store (run.1.mapError wrap, run.2) := by
  obtain ⟨_ | _, _⟩ := run <;> exact h

end Sink

/-- A run, with the number of its rows in place of the whole report. -/
def Report.rowCount (run : Except Fault Report × Store) : Except Fault ℕ × Store :=
  (run.1.map Report.rowsWritten, run.2)

namespace Backend

/-- A run is a writing of its output. -/
theorem write_of_execute (b : Backend) (p : Plan) (sink : Sink) (store : Store) :
    Report.rowCount (b.execute p sink store) =
      sink.write p.names (fun before => (b.output before p).toFeed) store := by
  unfold execute Sink.write
  cases sink.opened store with
  | error fault => rfl
  | ok opened =>
    dsimp only
    rcases sink.filled p.names (b.output opened.1 p).toFeed opened with ⟨_ | _, _⟩ <;> rfl

end Backend

namespace Table

/-- A sort is a writing of its output, unless it is refused before the output is opened. -/
theorem write_of_sort (t : Table) (store : Store) (order output : Arg) (options : Settings) :
    (∃ fault, t.sort store order output options = (.error fault, store)) ∨
      ∃ (sink : Sink) (sortOrder : SortOrder) (chunk : ℕ),
        Sink.ofArgs store output (.named []) = .ok sink ∧
        SortOrder.ofArg t.catalog order = .ok sortOrder ∧
        Report.rowCount (t.sort store order output options) =
          ((sink.write t.catalog.names (fun before =>
            t.sortedRows before sortOrder chunk (options.get "tempdir" .null)) store).1.mapError
              sortFault,
          (sink.write t.catalog.names (fun before =>
            t.sortedRows before sortOrder chunk (options.get "tempdir" .null)) store).2) := by
  unfold sort
  dsimp only
  split
  · exact .inl ⟨_, rfl⟩
  · rename_i hchecked
    obtain ⟨_, -, hchecked⟩ := bind_eq_ok.1 hchecked
    obtain ⟨-, hchecked⟩ := guard_eq_ok.1 hchecked
    obtain ⟨chunk, -, hchecked⟩ := bind_eq_ok.1 hchecked
    obtain ⟨sortOrder, horder, hchecked⟩ := bind_eq_ok.1 hchecked
    obtain ⟨sink, hsink, hchecked⟩ := bind_eq_ok.1 hchecked
    simp only [Except.ok.injEq, Prod.mk.injEq] at hchecked
    obtain ⟨rfl, rfl, rfl⟩ := hchecked
    refine .inr ⟨sink, sortOrder, chunk, hsink, horder, ?_⟩
    split <;> rename_i hwrite <;> rw [hwrite] <;> rfl

end Table

/-- What a run or a sort leaves behind. One that reports success has put into its output the header
and the rows of the storage in which the output was emptied first, and their number. This keeps the
promise of the rows of the storage as it was where no source is in the place of the output. A source
in the place of the output has lost its rows, and if all are there the promise is kept if and only if
there were no rows to write. One that raises leaves the storage as it was only if it could not open
its output, and else what it had written. -/
theorem leaves_of_run (b : Backend) (p : Plan) (sink : Sink) (t : Table) (order output : Arg)
    (options : Settings) (store : Store) :
    sink.Leaves p.names (fun before => (b.output before p).toFeed) p.work.sources p.work.needsRows
        store (Report.rowCount (b.execute p sink store)) ∧
      ((∃ fault, t.sort store order output options = (.error fault, store)) ∨
        ∃ (target : Sink) (sortOrder : SortOrder) (chunk : ℕ),
          Sink.ofArgs store output (.named []) = .ok target ∧
          SortOrder.ofArg t.catalog order = .ok sortOrder ∧
          target.Leaves t.catalog.names
            (fun before => t.sortedRows before sortOrder chunk (options.get "tempdir" .null))
            [t.source] true store (Report.rowCount (t.sort store order output options))) := by
  constructor
  · rw [Backend.write_of_execute]
    exact Sink.leaves_of_write
      (fun before after hsame => congrArg Outcome.toFeed (Backend.output_congr hsame))
      (fun before hneeds hnone => Backend.output_nil hneeds hnone)
  · rcases Table.write_of_sort t store order output options with
      hrefused | ⟨target, sortOrder, chunk, hsink, horder, hrun⟩
    · exact .inl hrefused
    · refine .inr ⟨target, sortOrder, chunk, hsink, horder, ?_⟩
      rw [hrun]
      refine Sink.Leaves.mapError (Sink.leaves_of_write ?_ ?_) Table.sortFault
      · exact fun before after hsame =>
          Table.sortedRows_congr (hsame t.source (by simp)) sortOrder chunk _
      · exact fun before _ hnone => Table.sortedRows_nil (hnone t.source (by simp)) sortOrder chunk _

/-! ### A table written over its own file -/

/-- The sample with nothing in its file. -/
def emptiedStore : Store := { files := [(["a.csv"], [])] }

/-- The sample with nothing but the header row in its file. -/
def headerStore : Store := { files := [(["a.csv"], [107, 44, 118, 13, 10])] }

def sampleSink : Sink := { uri := "a.csv", settings := .named [("encoding", .text "locale")] }

def samplePlan : Plan where
  names := [.text "k", .text "v"]
  options := {}
  batchSize := 1
  work := .rows sampleSource (RowTransform.ofTable sampleTable.catalog {} true) [0, 1]

theorem plan_sample : sampleTable.plan {} true = .ok samplePlan := by
  cbv

theorem opened_sample :
    sampleSink.opened sampleStore = .ok (emptiedStore, [("encoding", .text "locale")]) := by
  have hwrite : sampleStore.write "a.csv" [] = .ok emptiedStore := by
    rw [Store.write, sampleStore, walk_sample]
    rfl
  have huri : sampleSink.uri = "a.csv" := rfl
  simp only [Sink.opened, huri, hwrite]
  rfl

theorem rows_emptied : sampleSource.rows emptiedStore = ⟨[], none⟩ := by
  have hread : emptiedStore.read "a.csv" = .ok [] := by
    rw [Store.read, emptiedStore, walk_sample]
    rfl
  have hopen : sampleSource.opening emptiedStore = .ok [("encoding", .text "locale")] := by
    simp only [Source.opening, sampleSource, Store.isFile, emptiedStore, walk_sample]
    rfl
  have htext : Source.textOf "a.csv" ⟨.utf8, false⟩ .strict [] = ([], none) := by
    rw [Source.textOf, ofPath_sample]
    cbv
  have hlines : Delimited.lines [] = [] := by cbv
  rw [Source.rows, Source.allRows_of_text hopen rfl hread rfl rfl htext, hlines]
  rfl

theorem output_sample_plan : Backend.output {} sampleStore samplePlan =
    { items := [[.text "a", .text "1"], [.text "b", .text "2"]] } := by
  simp only [Backend.output, samplePlan, Backend.workThrough, batches_sample]
  rfl

theorem output_emptied : Backend.output {} emptiedStore samplePlan = { items := [] } := by
  have hbatches : (Feed.numbered ⟨[], none⟩).batches 1 = ⟨[], none⟩ := by cbv
  simp only [Backend.output, samplePlan, Backend.workThrough, rows_emptied, hbatches]
  rfl

theorem filled_sample : sampleSink.filled samplePlan.names ⟨[], none⟩
    (emptiedStore, [("encoding", .text "locale")]) = (.ok 0, headerStore) := by
  have hfill : Sink.fill [("encoding", .text "locale")] samplePlan.names ⟨[], none⟩ =
      ([107, 44, 118, 13, 10], none) := by
    rfl
  have hwrite : emptiedStore.write "a.csv" [107, 44, 118, 13, 10] = .ok headerStore := by
    rw [Store.write, emptiedStore, walk_sample]
    rfl
  have huri : sampleSink.uri = "a.csv" := rfl
  simp only [Sink.filled, hfill, huri, ofPath_sample, Compressed.Packing.pack, hwrite]
  rfl

theorem execute_sample : Backend.execute {} samplePlan sampleSink sampleStore =
    (.ok { output := "a.csv" }, headerStore) := by
  simp only [Backend.execute, opened_sample, output_emptied, filled_sample]
  rfl

/-- The run reports success and no rows, where the file held two; they are gone. -/
theorem execute_over_source :
    sampleTable.plan {} true = .ok samplePlan ∧
      (Backend.output {} sampleStore samplePlan).items.length = 2 ∧
      ∃ report store', Backend.execute {} samplePlan sampleSink sampleStore = (.ok report, store') ∧
        report.success = true ∧ report.rowsWritten = 0 ∧
        sampleStore.read "a.csv" = .ok sampleBytes ∧
        store'.read "a.csv" = .ok [107, 44, 118, 13, 10] := by
  refine ⟨plan_sample, by rw [output_sample_plan]; rfl, _, _, execute_sample, rfl, rfl, ?_, ?_⟩
  · rw [Store.read, sampleStore, walk_sample]
    rfl
  · rw [Store.read, headerStore, walk_sample]
    rfl

/-- What the general statement says of this run. -/
theorem leaves_of_run_sample :
    ∃ at_ settings, sampleSink.Wrote settings at_ samplePlan.names
      (fun before => (Backend.output {} before samplePlan).toFeed) [sampleSource] true sampleStore
      headerStore 0 := by
  have hleaves := (leaves_of_run {} samplePlan sampleSink sampleTable .null .null [] sampleStore).1
  rw [execute_sample] at hleaves
  exact hleaves

end TablePipeline
