import Mathlib
import TablePipeline.Proofs.DryRun
import TablePipeline.Proofs.FileRoundTrip
import TablePipeline.Proofs.RowOrder
import TablePipeline.Proofs.WrittenMarks

/-!
A sort writes what a run writes, in another order. A run formats a row as the last steps of its
transform and a sort column by column once it has its place; both give the same text, as no formatter
sees what another one has made. Rows are sorted by the values that they have without formatters, so
the output of a sort is the output of a run, sorted stably by what its rows were made of. Only where
rows have been put aside and read back can it be another one: a NaN in them is no longer the same as
itself.
-/
namespace TablePipeline

/-! ### Formatting column by column -/

namespace Table

variable {c : Catalog} {row shown : Row}

/-- A sort puts out all columns, each through its own formatter. -/
theorem formattedCells_eq (c : Catalog) (row : Row) :
    formattedCells c row = c.formattedAt c.live row :=
  mapM_congr fun _ _ => rfl

/-- A row through the formatters of its columns, without marks of NaNs. -/
def shownCells (c : Catalog) (row : Row) : Except Fault Row :=
  (formattedCells c row).map (Datum.forgetItems true)

/-- A value through the formatter of a slot, if it has one, without marks of NaNs. -/
def shownValue (c : Catalog) (slot : ℕ) (v : Value) : Except Fault Value :=
  match c.formatter? slot with
  | some f => (f.apply [v]).map (Datum.forget true)
  | none => .ok (v.forget true)

theorem shownCells_eq (hlive : ∀ slot ∈ c.live, slot < row.length) :
    shownCells c row = c.live.mapM fun slot => shownValue c slot (row.getD slot .null) := by
  have hforget : (Datum.forgetItems true : Row → Row) = List.map (Datum.forget true) :=
    funext (Datum.forgetItems_eq_map true)
  rw [shownCells, formattedCells, hforget, ← mapM_map_results]
  refine mapM_congr fun slot hslot => ?_
  rw [cell_eq_ok (hlive slot hslot), ok_bind, shownValue]
  cases c.formatter? slot <;> rfl

/-- Column by column a row is formatted as by the steps of a transform. -/
theorem shownCells_of_formattedBy (h : Catalog.FormattedBy c.formatters row shown)
    (hlive : ∀ slot ∈ c.live, slot < row.length) :
    shownCells c row =
      .ok (Datum.forgetItems true (c.live.map fun slot => shown.getD slot .null)) := by
  rw [shownCells, formattedCells_eq]
  exact Catalog.formattedAt_of_formattedBy h true hlive

/-! ### Rows that are written in the order of the file -/

variable {t : Table} {store : Store} {order : SortOrder} {chunk : ℕ} {folder : Arg}

theorem rows_of_acceptedRows (h : (t.acceptedRows store).fault = none) :
    (t.source.rows store).fault = none ∧
    (∀ values ∈ (t.source.rows store).items, ∃ row?,
      (RowTransform.ofTable t.catalog t.rules false).kept values = .ok row?) ∧
    (t.acceptedRows store).items = (t.source.rows store).items.flatMap fun values =>
      made ((RowTransform.ofTable t.catalog t.rules false).kept values |>.map Option.toList) := by
  obtain ⟨hread, hkept⟩ := Feed.ok_of_traverse h
  refine ⟨hread, fun values hvalues => ?_, ?_⟩
  · obtain ⟨_, hrows⟩ := hkept values hvalues
    obtain ⟨row?, hrow, -⟩ := bind_eq_ok.1 hrows
    exact ⟨row?, hrow⟩
  · exact congrArg Feed.items (Feed.traverse_of_ok _ hkept)

theorem width_le_of_mem_acceptedRows (h : row ∈ (t.acceptedRows store).items) :
    t.catalog.width ≤ row.length := by
  obtain ⟨values, -, rows, hrows, hrow⟩ := Feed.exists_of_mem_traverse h
  obtain ⟨row?, hkept, hrows⟩ := bind_eq_ok.1 hrows
  obtain rfl := Except.ok.inj hrows
  obtain rfl : row? = some row := Option.mem_toList.1 hrow
  exact RowTransform.width_le_of_kept hkept

theorem lt_length_of_mem_live (h : row ∈ (t.acceptedRows store).items) :
    ∀ slot ∈ t.catalog.live, slot < row.length :=
  fun _ hslot => (Catalog.lt_width_of_isLive (List.mem_filter.1 hslot).2).trans_le
    (width_le_of_mem_acceptedRows h)

/-- A row that a run writes is the one that is kept without formatters, formatted column by column. -/
theorem shownCells_of_kept (hformats : t.catalog.Formats) {values : Row} {written? : Option Row}
    (hkept : (RowTransform.ofTable t.catalog t.rules false).kept values = .ok (some row))
    (hrun : (RowTransform.ofTable t.catalog t.rules true).run values = .ok written?) :
    ∃ written, written? = some written ∧ shownCells t.catalog row =
      .ok (Datum.forgetItems true (t.catalog.live.map fun slot => written.getD slot .null)) := by
  have hformatted := RowTransform.kept_of_formats hformats hkept
  rw [RowTransform.run_eq_kept] at hrun
  cases hfault : t.catalog.formatFault? row with
  | some fault =>
    simp only [hfault] at hformatted
    simp [hformatted, Except.map] at hrun
  | none =>
    simp only [hfault] at hformatted
    obtain ⟨shown, hshown, hby⟩ := hformatted
    have hlive : ∀ slot ∈ t.catalog.live, slot < row.length := fun slot hslot =>
      (Catalog.lt_width_of_isLive (List.mem_filter.1 hslot).2).trans_le
        (RowTransform.width_le_of_kept hkept)
    rw [hshown] at hrun
    refine ⟨Datum.forgetItems false shown, (Except.ok.inj hrun).symm, ?_⟩
    rw [shownCells_of_formattedBy hby hlive]
    simp only [Datum.forgetItems_eq_map true, List.map_map, Function.comp_def,
      Datum.getD_forgetItems, Datum.forget_forget, Bool.false_or]

/-- Rows of which none fails are written as the accepted ones, each formatted column by column. -/
theorem shownCells_acceptedRows (hformats : t.catalog.Formats)
    (hended : (t.acceptedRows store).fault = none)
    (hruns : ∀ values ∈ (t.source.rows store).items, ∃ row?,
      (RowTransform.ofTable t.catalog t.rules true).run values = .ok row?) :
    (t.acceptedRows store).items.map (shownCells t.catalog) =
      ((RowTransform.ofTable t.catalog t.rules true).accepted (t.source.rows store).items).map
        fun row => .ok (Datum.forgetItems true
          (t.catalog.live.map fun slot => row.getD slot .null)) := by
  obtain ⟨-, hkept, hitems⟩ := rows_of_acceptedRows hended
  rw [hitems, RowTransform.accepted, List.filterMap_eq_flatMap_toList, List.map_flatMap,
    List.map_flatMap]
  refine List.flatMap_congr fun values hvalues => ?_
  obtain ⟨row?, hrow⟩ := hkept values hvalues
  obtain ⟨written?, hrun⟩ := hruns values hvalues
  cases row? with
  | none =>
    have hnone : (RowTransform.ofTable t.catalog t.rules true).run values = .ok none := by
      rw [RowTransform.run_eq_kept, RowTransform.kept_formatted, hrow]
      rfl
    rw [hrow, hnone]
    rfl
  | some row =>
    obtain ⟨written, rfl, hcells⟩ := shownCells_of_kept hformats hrow hrun
    rw [hrow, hrun]
    exact congrArg List.singleton hcells

/-! ### Rows that are written in another order -/

/-- Rows that can be put aside: copies of them that are read back are compared and shown as they
are. -/
structure SortsAside (t : Table) (order : SortOrder) (rows : List Row) : Prop where
  compared : ∀ a ∈ rows, ∀ b ∈ rows,
    lessApart order (Datum.forgetItems true a) (Datum.forgetItems true b) = lessApart order a b
  shown : ∀ slot ∈ t.catalog.live, ∀ row ∈ rows,
    shownValue t.catalog slot ((row.getD slot .null).forget true) =
      shownValue t.catalog slot (row.getD slot .null)

/-- Rows can be put aside if no column by which they are compared or which is formatted holds a NaN. -/
theorem sortsAside_of_forget {rows : List Row}
    (hcompared : ∀ row ∈ rows, ∀ key ∈ order,
      (row.getD key.slot .null).forget true = row.getD key.slot .null)
    (hformatted : ∀ row ∈ rows, ∀ slot, (t.catalog.formatter? slot).isSome →
      (row.getD slot .null).forget true = row.getD slot .null) : t.SortsAside order rows where
  compared a ha b hb := by
    have hcell : ∀ row ∈ rows, ∀ key ∈ order,
        Row.cell (Datum.forgetItems false (Datum.forgetItems true row)) key.slot =
          Row.cell (Datum.forgetItems false row) key.slot := by
      intro row hrow key hkey
      have hsame := hcompared row hrow key hkey
      simp only [cell_forgetItems]
      rcases Nat.lt_or_ge key.slot row.length with hslot | hslot
      · simp only [cell_eq_ok hslot, Except.map, hsame]
      · simp [Row.cell, hslot, Except.map]
    rw [lessApart, lessApart, SortOrder.less, SortOrder.less,
      SortOrder.compare_congr (hcell a ha) (hcell b hb)]
  shown slot _ row hrow := by
    unfold shownValue
    cases hformat : t.catalog.formatter? slot with
    | none => simp only [Datum.forget_forget, Bool.true_or]
    | some f => rw [hformatted row hrow slot (by rw [hformat]; rfl)]

theorem SortsAside.shownCells_forget {rows : List Row} (h : t.SortsAside order rows)
    (hrow : row ∈ rows) (hlive : ∀ slot ∈ t.catalog.live, slot < row.length) :
    shownCells t.catalog (Datum.forgetItems true row) = shownCells t.catalog row := by
  have hlength : (Datum.forgetItems true row).length = row.length := by
    rw [Datum.forgetItems_eq_map, List.length_map]
  rw [shownCells_eq hlive, shownCells_eq fun slot hslot => hlength ▸ hlive slot hslot]
  refine mapM_congr fun slot hslot => ?_
  rw [Datum.getD_forgetItems, h.shown slot hslot row hrow]

/-- What a sort writes are the accepted rows, sorted stably by their values without formatters and
then formatted column by column. -/
theorem shownCells_sortedRows {cmp : ℕ → Value → Value → Ordering}
    [∀ slot, Std.TransCmp (cmp slot)] (hpos : 0 < chunk)
    (horders : order.Orders cmp (t.acceptedRows store).items)
    (haside : chunk ≤ (t.acceptedRows store).items.length →
      t.SortsAside order (t.acceptedRows store).items)
    (hended : (t.sortedRows store order chunk folder).fault = none) :
    (t.acceptedRows store).fault = none ∧
      (t.sortedRows store order chunk folder).items.map
          (fun row => .ok (Datum.forgetItems true row)) =
        ((t.acceptedRows store).items.mergeSort fun a b => (order.rowOrder cmp a b).isLE).map
          (shownCells t.catalog) := by
  unfold sortedRows at hended ⊢
  split_ifs at hended ⊢ with hsize
  · cases hended
  obtain ⟨hsorts, -⟩ := Feed.ok_of_traverse hended
  obtain ⟨haccepted, hsorted⟩ := Sorting.sortRows_eq_of_ended hsorts hpos horders.decides
    fun hlong => (haside hlong).compared
  refine ⟨haccepted, ?_⟩
  have hcells := Scheduling.traverse_single hended
  calc _ = (Sorting.sortRows (lessApart order) chunk folder (t.acceptedRows store)).items.map
        (shownCells t.catalog) := by
        refine (map_eq_map_of_ok hcells.symm fun row _ cells hformatted => ?_).symm
        rw [shownCells, hformatted]
        rfl
    _ = _ := by
      rw [hsorted, List.map_map]
      refine List.map_congr_left fun row hrow => ?_
      have hmem := (List.mergeSort_perm _ _).mem_iff.1 hrow
      split_ifs with hshort
      · rfl
      · exact (haside (Nat.not_lt.1 hshort)).shownCells_forget hmem (lt_length_of_mem_live hmem)

end Table

/-! ### What is written -/

namespace Backend

variable {b : Backend} {p : Plan} {sink : Sink} {store left : Store} {report : Report}

theorem output_of_execute (h : b.execute p sink store = (.ok report, left)) :
    report.output = sink.uri := by
  cases hopen : sink.opened store with
  | error fault => simp [execute, hopen] at h
  | ok opened =>
    have hreport := congrArg Prod.fst h
    rw [execute_eq hopen] at hreport
    split at hreport
    · cases hreport
    · exact congrArg Report.output (Except.ok.inj hreport).symm

end Backend

namespace Table

variable {t : Table} {store : Store}

/-- A run with the usual options executes the plan of all columns. -/
theorem compute_usual (t : Table) (store : Store) (output : Arg) :
    Subject.compute store (.table t) output [] none =
      match t.plan {} true, Sink.ofArgs store output (.named []) with
      | .ok p, .ok sink => (Backend.ofOptions {}).execute p sink store
      | .error fault, _ => (.error fault, store)
      | _, .error fault => (.error fault, store) := by
  have hrefuse : ∀ names fault, Settings.refuse [] names fault = .ok () := fun _ _ => rfl
  have hcheck : Subject.computeSignature.check [] = .ok () := rfl
  have hoptions : RunOptions.ofSettings (Settings.without [] ["backend"]) = .ok {} := rfl
  have hback : Subject.backendFor [] {} none = .ok (.ofOptions {}) := rfl
  simp only [Subject.compute, hrefuse, hcheck, hoptions, hback, Except.mapError, ok_bind,
    Subject.plan]
  cases t.plan {} true with
  | error fault => rfl
  | ok p => cases Sink.ofArgs store output (.named []) <;> rfl

/-- A run with the usual options that ends with a report. -/
theorem execute_of_compute {output : Arg} {report : Report} {left : Store}
    (h : Subject.compute store (.table t) output [] none = (.ok report, left)) :
    ∃ p sink, t.plan {} true = .ok p ∧ Sink.ofArgs store output (.named []) = .ok sink ∧
      (Backend.ofOptions {}).execute p sink store = (.ok report, left) := by
  rw [compute_usual] at h
  split at h
  · exact ⟨_, _, ‹_›, ‹_›, h⟩
  · cases h
  · cases h

/-- A sort that ends with a report. -/
theorem write_of_sort_eq_ok {order output : Arg} {options : Settings} {report : Report} {left : Store}
    (h : t.sort store order output options = (.ok report, left)) :
    t.rules.makesGroups = false ∧ ∃ chunk keys sink,
      chunkOf (options.get "chunk_size" (.int Sorting.defaultChunk)) = .ok chunk ∧
      SortOrder.ofArg t.catalog order = .ok keys ∧
      Sink.ofArgs store output (.named []) = .ok sink ∧ report.output = sink.uri ∧
      sink.write t.catalog.names
          (fun before => t.sortedRows before keys chunk (options.get "tempdir" .null)) store =
        (.ok report.rowsWritten, left) := by
  unfold sort at h
  dsimp only at h
  split at h
  · cases h
  · rename_i hchecked
    obtain ⟨_, -, hchecked⟩ := bind_eq_ok.1 hchecked
    obtain ⟨hgroups, hchecked⟩ := guard_eq_ok.1 hchecked
    obtain ⟨chunk, hchunk, hchecked⟩ := bind_eq_ok.1 hchecked
    obtain ⟨keys, hkeys, hchecked⟩ := bind_eq_ok.1 hchecked
    obtain ⟨sink, hsink, hchecked⟩ := bind_eq_ok.1 hchecked
    simp only [Except.ok.injEq, Prod.mk.injEq] at hchecked
    obtain ⟨rfl, rfl, rfl⟩ := hchecked
    refine ⟨by simpa using hgroups, chunk, keys, sink, hchunk, hkeys, hsink, ?_⟩
    split at h <;> rename_i hwrite
    · simp only [Prod.mk.injEq, Except.ok.injEq] at h
      obtain ⟨rfl, rfl⟩ := h
      exact ⟨rfl, hwrite⟩
    · cases h

/-- What a run with the usual options puts out if nothing fails: the accepted rows in the order of the
file, each formatted column by column. -/
theorem shownCells_output (hformats : t.catalog.Formats) (hrows : t.rules.makesGroups = false)
    (hsize : 0 < t.batchSize) (hended : (t.acceptedRows store).fault = none) {p : Plan}
    (hplan : t.plan {} true = .ok p)
    (hclean : ((Backend.ofOptions {}).output store p).failures = []) :
    (t.acceptedRows store).items.map (shownCells t.catalog) =
      ((Backend.ofOptions {}).output store p).items.map
        fun row => .ok (Datum.forgetItems true row) := by
  obtain ⟨hread, -⟩ := rows_of_acceptedRows hended
  have houtput : (Backend.ofOptions {}).output store p = _ :=
    Backend.output_of_rows (b := Backend.ofOptions {}) hrows hplan hread hsize (by decide)
      (by decide) (.inl rfl)
  rw [houtput] at hclean ⊢
  have hruns : ∀ values ∈ (t.source.rows store).items, ∃ row?,
      (RowTransform.ofTable t.catalog t.rules true).run values = .ok row? := by
    intro values hvalues
    cases hrun : (RowTransform.ofTable t.catalog t.rules true).run values with
    | ok row? => exact ⟨row?, rfl⟩
    | error fault =>
      obtain ⟨number, hnumber⟩ := List.mem_iff_getElem?.1 hvalues
      have hmem := RowTransform.mem_failing.2 ⟨values, hnumber, hrun⟩
      rw [List.map_eq_nil_iff.1 hclean] at hmem
      cases hmem
  rw [shownCells_acceptedRows hformats hended hruns, List.map_map]
  rfl

theorem sink_eq_of_ofArgs {output : Arg} {sink : Sink}
    (h : Sink.ofArgs store output (.named []) = .ok sink) : sink = { uri := sink.uri } := by
  obtain ⟨-, -, hsettings⟩ := Sink.ofArgs_eq_ok h
  rw [← hsettings]

/-- A run with the usual options that ends with a report has written what it puts out. -/
theorem holds_of_compute {output : Arg} {report : Report} {left : Store}
    (h : Subject.compute store (.table t) output [] none = (.ok report, left))
    (hapart : store.place? report.output ≠ store.place? t.source.uri) :
    ∃ p, t.plan {} true = .ok p ∧
      report.failures = ((Backend.ofOptions {}).output store p).failures ∧
      Sink.Holds { uri := report.output } [] p.names ((Backend.ofOptions {}).output store p).items left
        report.rowsWritten := by
  obtain ⟨p, sink, hplan, hsink, hrun⟩ := execute_of_compute h
  have houtput := Backend.output_of_execute hrun
  rw [houtput] at hapart ⊢
  obtain ⟨hfailures, settings, hopening, hholds⟩ := Backend.holds_of_execute hrun
    (by simpa [sources_default hplan] using hapart)
  rw [sink_eq_of_ofArgs hsink] at hopening hholds
  obtain rfl : [] = settings := Except.ok.inj hopening
  exact ⟨p, hplan, hfailures, hholds⟩

theorem pos_of_chunkOf {arg : Arg} {chunk : ℕ} (h : chunkOf arg = .ok chunk) : 0 < chunk := by
  unfold chunkOf at h
  split at h
  · split_ifs at h with hpos
    obtain rfl := Except.ok.inj h
    omega
  · cases h

/-- A sort that ends with a report has written its rows. -/
theorem holds_of_sort {order output : Arg} {options : Settings} {keys : SortOrder} {chunk : ℕ}
    {report : Report} {left : Store} (hkeys : SortOrder.ofArg t.catalog order = .ok keys)
    (hchunk : chunkOf (options.get "chunk_size" (.int Sorting.defaultChunk)) = .ok chunk)
    (h : t.sort store order output options = (.ok report, left))
    (hapart : store.place? report.output ≠ store.place? t.source.uri) :
    let rows := t.sortedRows store keys chunk (options.get "tempdir" .null)
    t.rules.makesGroups = false ∧ 0 < chunk ∧ rows.fault = none ∧
      Sink.Holds { uri := report.output } [] t.catalog.names rows.items left report.rowsWritten := by
  obtain ⟨hrows, _, _, sink, hchunk', hkeys', hsink, houtput, hwrite⟩ := write_of_sort_eq_ok h
  obtain rfl := Except.ok.inj (hchunk.symm.trans hchunk')
  obtain rfl := Except.ok.inj (hkeys.symm.trans hkeys')
  rw [houtput] at hapart ⊢
  have hapart : ∀ source ∈ [t.source], store.place? sink.uri ≠ store.place? source.uri := by
    simpa using hapart
  obtain ⟨hended, settings, hopening, hholds⟩ := Sink.holds_of_write
    (fun before after hsame => sortedRows_congr (hsame t.source (by simp)) keys chunk _) hapart hwrite
  rw [sink_eq_of_ofArgs hsink] at hopening hholds
  obtain rfl : [] = settings := Except.ok.inj hopening
  exact ⟨hrows, pos_of_chunkOf hchunk, hended, hholds⟩

/-- A sort and a run with the usual options write the same rows under the same header. The run writes
the rows that the table accepts, in the order of the file and each of them formatted; the sort writes
them sorted stably by the values that they have without formatters. So it writes as many, whatever the
size of its chunks. This is so if the columns of the order are ordered, and if the rows, where they fill
a chunk, can be put aside. -/
theorem sort_agrees {opened : Table} {before : Store} {path haveHeader batchSize : Arg}
    {settings : FileSettings} (hopen : ofArgs before path haveHeader batchSize settings = .ok opened)
    {history : List (Store × Edit)} (hedited : opened.after history = t)
    {order sorted computed : Arg} {options : Settings} {keys : SortOrder} {chunk : ℕ}
    (hkeys : SortOrder.ofArg t.catalog order = .ok keys)
    (hchunk : chunkOf (options.get "chunk_size" (.int Sorting.defaultChunk)) = .ok chunk)
    {run report : Report} {ran left : Store}
    (hrun : Subject.compute store (.table t) computed [] none = (.ok run, ran))
    (hclean : run.failures = [])
    (hsort : t.sort store order sorted options = (.ok report, left))
    (hapart : ∀ uri ∈ [run.output, report.output], store.place? uri ≠ store.place? t.source.uri)
    {cmp : ℕ → Value → Value → Ordering} [∀ slot, Std.TransCmp (cmp slot)]
    (hcmp : ∀ key ∈ keys, OrderedBy (cmp key.slot)
      ((t.acceptedRows store).items.map fun row => row.getD key.slot .null))
    (haside : chunk ≤ (t.acceptedRows store).items.length →
      t.SortsAside keys (t.acceptedRows store).items) :
    ∃ p, t.plan {} true = .ok p ∧
      let accepted := (t.acceptedRows store).items
      let rows := ((Backend.ofOptions {}).output store p).items
      accepted.map (shownCells t.catalog) = rows.map (fun row => .ok (Datum.forgetItems true row)) ∧
      Sink.Holds { uri := run.output } [] t.catalog.names rows ran run.rowsWritten ∧
      ∃ pairs : List (Row × Row),
        Sorting.SortedStably (fun x y => keys.rowOrder cmp x.1 y.1) pairs (accepted.zip rows) ∧
        (pairs.map fun pair => pair.2).Perm rows ∧
        Sink.Holds { uri := report.output } [] t.catalog.names (pairs.map fun pair => pair.2) left
          report.rowsWritten ∧
        report.rowsWritten = run.rowsWritten := by
  obtain ⟨p, hplan, hfailures, hwritten⟩ := holds_of_compute hrun (hapart _ (by simp))
  obtain ⟨hrows, hpos, hended, hholds⟩ :=
    holds_of_sort hkeys hchunk hsort (hapart _ (by simp))
  have hnames : p.names = t.catalog.names := by
    obtain ⟨q, hq, hthere, -⟩ := (evaluable_of_plan hplan).plan true
    obtain rfl := Except.ok.inj (hplan.symm.trans hq)
    simpa [Table.names, hrows] using hthere.symm
  obtain ⟨hcatalog, hrules⟩ := catalog_of_ofArgs hopen
  have hformats : t.catalog.Formats :=
    hedited ▸ ((declares_of_opened hcatalog hrules).after history).formats
  have hsize : 0 < t.batchSize := by
    rw [← hedited, (frame_after opened history).2]
    exact batchSize_of_ofArgs hopen
  have horders : keys.Orders cmp (t.acceptedRows store).items := by
    refine ⟨fun key hkey row hrow => ?_, hcmp⟩
    exact (SortOrder.lt_width_of_ofArg hkeys key hkey).trans_le (width_le_of_mem_acceptedRows hrow)
  obtain ⟨haccepted, hsorted⟩ := shownCells_sortedRows hpos horders haside hended
  have hshown := shownCells_output hformats hrows hsize haccepted hplan (hfailures ▸ hclean)
  refine ⟨p, hplan, hshown, hnames ▸ hwritten, ?_⟩
  obtain ⟨pairs, hstable, hperm, hzip⟩ :=
    Sorting.exists_sortedStably_zip (keys.rowOrder cmp) hshown
  have hsame : (t.sortedRows store keys chunk (options.get "tempdir" .null)).items.map
      (Datum.forgetItems true) = (pairs.map fun pair => pair.2).map (Datum.forgetItems true) := by
    have hok : Function.Injective (Except.ok : Row → Except Fault Row) := fun _ _ => Except.ok.inj
    apply List.map_injective_iff.2 hok
    simpa only [List.map_map, Function.comp_def] using hsorted.trans hzip.symm
  have hwritten' := hholds.congr hsame
  refine ⟨pairs, hstable, hperm, hwritten', ?_⟩
  rw [hwritten'.1, hwritten.1, hperm.length_eq]

end Table

/-! ### Two rows in chunks of one -/

def plainSink : Sink := { uri := "o.csv" }

/-- The sample with the open output beside it. -/
def plainOpened : Store × Settings := (sampleStore.put ["o.csv"] [], [])

theorem ofArgs_plain : Sink.ofArgs sampleStore (.text "o.csv") (.named []) = .ok plainSink := by
  have hpath : Arg.pathText Sink.role (.text "o.csv") = .ok "o.csv" := rfl
  have hdelimited : Source.isDelimited "o.csv" (.named []) = .ok true := by
    have hextension : Path.extension "o.csv" = ".csv" := by
      rw [Path.extension, Path.names, parts_target]
      decide +kernel
    have hlower : Text.lower ".csv" = ".csv" := by decide +kernel
    rw [Source.isDelimited, Path.looksDelimited, hextension, hlower]
    rfl
  have hparent : Path.parent "o.csv" = "" := by
    simp only [Path.parent, parts_target]
    decide +kernel
  have hfolder : Sink.folder "o.csv" = "." := by simp [Sink.folder, hparent]
  simp [Sink.ofArgs, hpath, hdelimited, hfolder, isFolder_here, plainSink]

theorem opened_plain : plainSink.opened sampleStore = .ok plainOpened := by
  have huri : plainSink.uri = "o.csv" := rfl
  have hwrite : sampleStore.write "o.csv" [] = .ok (sampleStore.put ["o.csv"] []) := by
    rw [Store.write, walk_target]
  simp only [Sink.opened, huri, hwrite]
  rfl

theorem rows_plain : sampleSource.rows plainOpened.1 = sampleSource.rows sampleStore := rows_target

/-- The order of texts; all other values stand where the empty text does. -/
def textOrder (_ : ℕ) : Value → Value → Ordering :=
  compareOn fun v => Text.codes (v.text?.getD "")

instance (slot : ℕ) : Std.TransCmp (textOrder slot) := inferInstanceAs (Std.TransCmp (compareOn _))

theorem orderedBy_texts {slot : ℕ} {vs : List Value} (h : ∀ v ∈ vs, ∃ s, v = .text s) :
    OrderedBy (textOrder slot) vs := by
  intro x hx y hy _ _
  obtain ⟨s, rfl⟩ := h x hx
  obtain ⟨u, rfl⟩ := h y hy
  rfl

theorem filled_plain {header : Row} {rows : List Row}
    (hfill : (Sink.fill [] header ⟨rows, none⟩).2 = none) :
    ∃ left, plainSink.filled header ⟨rows, none⟩ plainOpened = (.ok rows.length, left) := by
  have hsettings : plainOpened = (plainOpened.1, []) := rfl
  rw [Sink.filled, hsettings]
  dsimp only
  rw [hfill]
  exact ⟨_, rfl⟩

/-- A run of a table of the sample. -/
theorem compute_plain {t : Table} {p : Plan} {rows : List Row} (hsource : t.source = sampleSource)
    (hplan : t.plan {} true = .ok p)
    (houtput : (Backend.ofOptions {}).output sampleStore p = { items := rows })
    (hfill : (Sink.fill [] p.names ⟨rows, none⟩).2 = none) :
    ∃ ran, Subject.compute sampleStore (.table t) (.text "o.csv") [] none =
      (.ok { output := "o.csv", rowsWritten := rows.length }, ran) := by
  have hopened : (Backend.ofOptions {}).output plainOpened.1 p = { items := rows } := by
    refine (Backend.output_congr fun source hmem => ?_).trans houtput
    rw [Table.sources_default hplan, List.mem_singleton, hsource] at hmem
    rw [hmem, rows_plain]
  obtain ⟨ran, hfilled⟩ := filled_plain hfill
  rw [Table.compute_usual, hplan, ofArgs_plain]
  simp only [Backend.execute, opened_plain, hopened, hfilled]
  exact ⟨ran, rfl⟩

/-- A sort of a table of the sample, in chunks of one row. -/
theorem sort_plain {t : Table} {order : Arg} {keys : SortOrder} {rows : List Row}
    (hsource : t.source = sampleSource) (hrows : t.rules.makesGroups = false)
    (hkeys : SortOrder.ofArg t.catalog order = .ok keys)
    (hsorted : t.sortedRows sampleStore keys 1 .null = ⟨rows, none⟩)
    (hfill : (Sink.fill [] t.catalog.names ⟨rows, none⟩).2 = none) :
    ∃ left, t.sort sampleStore order (.text "o.csv") [("chunk_size", .int 1)] =
      (.ok { output := "o.csv", rowsWritten := rows.length }, left) := by
  have hcheck : Table.sortSignature.check [("chunk_size", .int 1)] = .ok () := rfl
  have hchunk : Table.chunkOf (Settings.get [("chunk_size", .int 1)] "chunk_size"
      (.int Sorting.defaultChunk)) = .ok 1 := rfl
  have hfolder : Settings.get [("chunk_size", .int 1)] "tempdir" .null = .null := rfl
  have hopened : t.sortedRows plainOpened.1 keys 1 .null = ⟨rows, none⟩ :=
    (Table.sortedRows_congr (hsource ▸ rows_plain) keys 1 .null).trans hsorted
  obtain ⟨left, hfilled⟩ := filled_plain hfill
  have hwrite : plainSink.write t.catalog.names (fun opened => t.sortedRows opened keys 1 .null)
      sampleStore = (.ok rows.length, left) := by
    rw [Sink.write, opened_plain]
    dsimp only
    rw [hopened, hfilled]
  refine ⟨left, ?_⟩
  simp only [Table.sort, hcheck, hrows, hchunk, hkeys, ofArgs_plain, hfolder, Except.mapError,
    ok_bind]
  simp [hwrite]
  rfl

theorem apart_plain : sampleStore.place? "o.csv" ≠ sampleStore.place? "a.csv" := by
  rw [Store.place?, walk_target, Store.place?, sampleStore, walk_sample]
  decide

def derivedPlan : Plan where
  names := [.text "k", .text "v", .text "w"]
  options := {}
  batchSize := 1
  work := .rows sampleSource (RowTransform.ofTable derivedTable.catalog {} true) [0, 1, 2]

def derivedRows : List Row := [
  [.text "a", .text "1", .tuple [.text "1", .text "!"]],
  [.text "b", .text "2", .tuple [.text "2", .text "!"]]]

theorem acceptedRows_derived : derivedTable.acceptedRows sampleStore = ⟨derivedRows, none⟩ := by
  have hrows : derivedTable.source.rows sampleStore = _ := rows_sample
  rw [Table.acceptedRows, hrows]
  rfl

theorem output_derived :
    (Backend.ofOptions {}).output sampleStore derivedPlan = { items := derivedRows } := by
  simp only [Backend.output, derivedPlan, Backend.workThrough, batches_sample]
  rfl

theorem sortedRows_derived :
    derivedTable.sortedRows sampleStore [⟨true, 0⟩] 1 .null = ⟨derivedRows.reverse, none⟩ := by
  rw [Table.sortedRows, acceptedRows_derived]
  cbv

/-- The two rows stand in the files of the run and of the sort, in opposite order. -/
theorem sort_agrees_derived : ∃ run report ran left,
    Subject.compute sampleStore (.table derivedTable) (.text "o.csv") [] none = (.ok run, ran) ∧
    derivedTable.sort sampleStore (.list [.text "-", .text "k"]) (.text "o.csv")
      [("chunk_size", .int 1)] = (.ok report, left) ∧
    plainSink.Holds [] derivedTable.catalog.names derivedRows ran 2 ∧
    plainSink.Holds [] derivedTable.catalog.names derivedRows.reverse left 2 := by
  have hplan : derivedTable.plan {} true = .ok derivedPlan := rfl
  have hkeys : SortOrder.ofArg derivedTable.catalog (.list [.text "-", .text "k"]) =
      .ok [⟨true, 0⟩] := rfl
  have hedited : sampleTable.after
      [(sampleStore, .operate (.func marked) (.text "v") (.text "w"))] = derivedTable := by
    rw [Table.after, Table.edit_of_steps rfl (dryRun_sample rfl rfl rfl)]
    rfl
  obtain ⟨ran, hrun⟩ := compute_plain rfl hplan output_derived
    (Option.isNone_iff_eq_none.1 (by decide +kernel))
  obtain ⟨left, hsort⟩ := sort_plain rfl rfl hkeys sortedRows_derived
    (Option.isNone_iff_eq_none.1 (by decide +kernel))
  have hapart : sampleStore.place? "o.csv" ≠ sampleStore.place? derivedTable.source.uri := apart_plain
  have hcolumn : ∀ key ∈ [SortKey.mk true 0], OrderedBy (textOrder key.slot)
      ((derivedTable.acceptedRows sampleStore).items.map fun row => row.getD key.slot .null) := by
    rw [acceptedRows_derived]
    simpa using orderedBy_texts (by simp [derivedRows])
  have haside : derivedTable.SortsAside [⟨true, 0⟩] (derivedTable.acceptedRows sampleStore).items := by
    rw [acceptedRows_derived]
    refine Table.sortsAside_of_forget ?_ ?_
    · simp [derivedRows, Datum.forget]
    · intro row hrow slot hslot
      cases hslot
  obtain ⟨p, hp, -, hwritten, pairs, hstable, hperm, hsorted, -⟩ := Table.sort_agrees ofArgs_sample
    hedited hkeys rfl hrun rfl hsort (by simp [hapart]) hcolumn fun _ => haside
  obtain rfl := Except.ok.inj (hplan.symm.trans hp)
  rw [output_derived] at hwritten
  rw [acceptedRows_derived, output_derived] at hstable
  refine ⟨_, _, ran, left, hrun, hsort, hwritten, ?_⟩
  have : Std.TransCmp fun x y : Row × Row => SortOrder.rowOrder textOrder [⟨true, 0⟩] x.1 y.1 :=
    Sorting.transCmp_fst
  have hpairs : pairs = (derivedRows.zip derivedRows).reverse := by
    rw [hstable.eq_mergeSort]
    cbv
  rw [hpairs] at hsorted
  exact hsorted

/-- Two tuples with one NaN in both, which differ in what comes after it. -/
def twins : Func :=
  .unary "twins" fun _ => .ok (.list [.tuple [givenNaN, .int 1], .tuple [givenNaN, .int 2]])

def greatest : Func := .aggregate "agg_max" Aggregate.max

/-- The sample with a third column, of which the greatest item is shown. -/
def twinTable : Table :=
  { derivedTable with
    catalog := { derivedTable.catalog with
      operations := [{ func := twins, inputs := [0], output := 2 }]
      formatters := [(2, greatest)] } }

def twinHistory : List (Store × Edit) := [
  (sampleStore, .operate (.func twins) (.text "k") (.text "w")),
  (sampleStore, .setFormatter (.text "w") (.func greatest))]

theorem after_twins : sampleTable.after twinHistory = twinTable := by
  have hderived : sampleTable.edit sampleStore
      (.operate (.func twins) (.text "k") (.text "w")) =
        (.ok (), { twinTable with catalog := { twinTable.catalog with formatters := [] } }) :=
    Table.edit_of_steps rfl (dryRun_sample rfl rfl rfl)
  rw [twinHistory, Table.after, hderived, Table.after,
    Table.edit_of_steps rfl (dryRun_sample rfl rfl rfl)]
  rfl

def twinPlan : Plan where
  names := [.text "k", .text "v", .text "w"]
  options := {}
  batchSize := 1
  work := .rows sampleSource (RowTransform.ofTable twinTable.catalog {} true) [0, 1, 2]

/-- What is written of the two rows where the tuple with a number in its second place is shown. -/
def shownRows (nan : Value) (number : ℤ) : List Row := [
  [.text "a", .text "1", .tuple [nan, .int number]],
  [.text "b", .text "2", .tuple [nan, .int number]]]

theorem output_twins :
    (Backend.ofOptions {}).output sampleStore twinPlan = { items := shownRows givenNaN 2 } := by
  simp only [Backend.output, twinPlan, Backend.workThrough, batches_sample]
  rfl

theorem sortedRows_twins : twinTable.sortedRows sampleStore [⟨false, 0⟩] 1 .null =
    ⟨shownRows (.float .nan) 1, none⟩ := by
  have hrows : twinTable.source.rows sampleStore = _ := rows_sample
  rw [Table.sortedRows, Table.acceptedRows, hrows]
  cbv

theorem fileOf_plain (header : Row) (rows : List Row) :
    plainSink.fileOf [] header rows = (Sink.fill [] header ⟨rows, none⟩).1 := by
  have hpacking : Compressed.Packing.ofPath plainSink.uri = .plain := by cbv
  rw [Sink.fileOf, hpacking]
  rfl

/-- A run shows the tuple with the greater number in its second place, and so would the sort, had the
rows not been put aside: once they have been read back, the two NaNs are not the same any more, and the
tuple that comes first is shown. Neither fails, and the column of the order holds texts; but the file of
the sort is not that of the rows of the run in any order. -/
theorem sort_disagrees :
    sampleTable.after twinHistory = twinTable ∧
    SortOrder.ofArg twinTable.catalog (.list [.text "+", .text "k"]) = .ok [⟨false, 0⟩] ∧
    (twinTable.acceptedRows sampleStore).items.map (fun row => row.getD 0 .null) =
      [.text "a", .text "b"] ∧
    sampleStore.place? "o.csv" ≠ sampleStore.place? twinTable.source.uri ∧
    ∃ run report ran left,
      Subject.compute sampleStore (.table twinTable) (.text "o.csv") [] none = (.ok run, ran) ∧
      run.failures = [] ∧
      twinTable.sort sampleStore (.list [.text "+", .text "k"]) (.text "o.csv")
        [("chunk_size", .int 1)] = (.ok report, left) ∧
      plainSink.Holds [] twinTable.catalog.names (shownRows givenNaN 2) ran 2 ∧
      ∀ rows, rows.Perm (shownRows givenNaN 2) →
        left.read "o.csv" ≠ .ok (plainSink.fileOf [] twinTable.catalog.names rows) := by
  have hplan : twinTable.plan {} true = .ok twinPlan := rfl
  have hkeys : SortOrder.ofArg twinTable.catalog (.list [.text "+", .text "k"]) =
      .ok [⟨false, 0⟩] := rfl
  have haccepted : (twinTable.acceptedRows sampleStore).items.map (fun row => row.getD 0 .null) =
      [.text "a", .text "b"] := by
    have hrows : twinTable.source.rows sampleStore = _ := rows_sample
    rw [Table.acceptedRows, hrows]
    rfl
  have hapart : sampleStore.place? "o.csv" ≠ sampleStore.place? twinTable.source.uri := apart_plain
  obtain ⟨ran, hrun⟩ := compute_plain rfl hplan output_twins
    (Option.isNone_iff_eq_none.1 (by decide +kernel))
  obtain ⟨left, hsort⟩ := sort_plain rfl rfl hkeys sortedRows_twins
    (Option.isNone_iff_eq_none.1 (by decide +kernel))
  obtain ⟨p, hp, -, hwritten⟩ := Table.holds_of_compute hrun hapart
  obtain rfl := Except.ok.inj (hplan.symm.trans hp)
  rw [output_twins] at hwritten
  have hleft : plainSink.Holds [] twinTable.catalog.names
      (twinTable.sortedRows sampleStore [⟨false, 0⟩] 1 .null).items left 2 :=
    (Table.holds_of_sort hkeys rfl hsort hapart).2.2.2
  rw [sortedRows_twins] at hleft
  refine ⟨after_twins, hkeys, haccepted, hapart, _, _, ran, left, hrun, rfl, hsort, hwritten, ?_⟩
  intro rows hperm hsame
  have hbytes := Except.ok.inj (hleft.2.symm.trans hsame)
  rw [fileOf_plain, fileOf_plain] at hbytes
  rcases List.perm_pair.1 hperm with rfl | rfl
  · exact absurd hbytes (by decide +kernel)
  · exact absurd hbytes (by decide +kernel)

end TablePipeline
