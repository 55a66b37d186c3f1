import Mathlib
import TablePipeline.Proofs.Columns
import TablePipeline.Proofs.Containment
import TablePipeline.Proofs.Editing
import TablePipeline.Proofs.OutputFile
import TablePipeline.Proofs.SinglePass

/-!
What becomes of the rows of a file. A row that the transform accepts is put out, cut down to the
chosen slots; one that a filter rejects is left out; one on which the transform fails is reported
under its number. No row is lost and none is counted twice, whatever the batches and the workers.
-/
namespace TablePipeline

namespace RowTransform

/-! ### An accepted row has every slot -/

theorem length_parseFields {number : ℕ} {parsers : List (Option Func)} {values row : Row}
    (h : parseFields number parsers values = .ok row) : row.length = parsers.length := by
  induction parsers generalizing number values row with
  | nil =>
    obtain rfl := Except.ok.inj h
    rfl
  | cons parser? parsers ih =>
    obtain ⟨v, -, h⟩ := bind_eq_ok.1 h
    obtain ⟨rest, hrest, h⟩ := bind_eq_ok.1 h
    obtain rfl := Except.ok.inj h
    simp [ih hrest]

/-- An operation that succeeds has put into its slot what its function makes of its inputs. -/
theorem kept_of_operation {number : ℕ} {op : Operation} {row kept : Row}
    (h : (RowStep.operation op).apply number row = .ok (some kept)) :
    ∃ args v, row.cells op.inputs = .ok args ∧ op.func.apply args = .ok v ∧
      op.output < row.length ∧ kept = row.set op.output (v.claim number) := by
  obtain ⟨args, hargs, h⟩ := bind_eq_ok.1 h
  obtain ⟨v, hv, h⟩ := bind_eq_ok.1 h
  obtain ⟨put, hput, h⟩ := bind_eq_ok.1 h
  obtain rfl := Option.some.inj (Except.ok.inj h)
  unfold Row.put at hput
  split_ifs at hput with hlt
  exact ⟨args, v, hargs, hv, hlt, (Except.ok.inj hput).symm⟩

/-- A filter that accepts a row leaves it as it is. -/
theorem kept_of_filter {number : ℕ} {f : RowFilter} {row kept : Row}
    (h : (RowStep.filter f).apply number row = .ok (some kept)) : kept = row := by
  obtain ⟨args, -, h⟩ := bind_eq_ok.1 h
  obtain ⟨v, -, h⟩ := bind_eq_ok.1 h
  split_ifs at h
  · exact (Option.some.inj (Except.ok.inj h)).symm
  · cases Except.ok.inj h

/-- A step keeps the slots of a row that it does not reject. -/
theorem length_apply {number : ℕ} {step : RowStep} {row kept : Row}
    (h : step.apply number row = .ok (some kept)) : kept.length = row.length := by
  cases step with
  | operation op =>
    obtain ⟨args, v, -, -, -, rfl⟩ := kept_of_operation h
    exact List.length_set
  | filter f => rw [kept_of_filter h]

theorem length_runSteps {number : ℕ} {steps : List RowStep} {row kept : Row}
    (h : runSteps number steps row = .ok (some kept)) : kept.length = row.length := by
  induction steps generalizing number row with
  | nil => rw [Option.some.inj (Except.ok.inj h)]
  | cons step steps ih =>
    obtain ⟨next, hnext, h⟩ := bind_eq_ok.1 h
    cases next with
    | none => cases Except.ok.inj h
    | some next => rw [ih h, length_apply hnext]

theorem width_le_of_kept {p : RowTransform} {values row : Row} (h : p.kept values = .ok (some row)) :
    p.width ≤ row.length := by
  obtain ⟨fields, hfields, hkept⟩ := bind_eq_ok.1 h
  rw [length_runSteps hkept, List.length_append, length_parseFields hfields, List.length_replicate]
  omega

theorem width_le_length {p : RowTransform} {values row : Row} (h : p.run values = .ok (some row)) :
    p.width ≤ row.length := by
  obtain ⟨kept?, hkept, h⟩ := bind_eq_ok.1 h
  obtain ⟨kept, rfl, rfl⟩ := Option.map_eq_some_iff.1 (Except.ok.inj h)
  simpa [Datum.forgetItems_eq_map] using width_le_of_kept hkept

/-! ### The three fates of a row -/

/-- The rows that pass the transform, as it leaves them. -/
def accepted (p : RowTransform) (rows : List Row) : List Row :=
  rows.filterMap fun values =>
    match p.run values with
    | .ok row => row
    | .error _ => none

/-- The rows that a filter rejects. -/
def rejected (p : RowTransform) (rows : List Row) : List Row :=
  rows.filter fun values =>
    match p.run values with
    | .ok none => true
    | _ => false

/-- The numbers of the rows on which the transform fails, with their faults; the first row has the
number `start`. -/
def failing (p : RowTransform) (start : ℕ) (rows : List Row) : List (ℕ × Fault) :=
  (rows.zipIdx start).filterMap fun (values, number) =>
    match p.run values with
    | .ok _ => none
    | .error fault => some (number, fault)

theorem width_le_of_mem_accepted {p : RowTransform} {rows : List Row} {row : Row}
    (h : row ∈ p.accepted rows) : p.width ≤ row.length := by
  obtain ⟨values, -, hkept⟩ := List.mem_filterMap.1 h
  cases hrun : p.run values with
  | error fault => simp [hrun] at hkept
  | ok kept? =>
    obtain rfl : kept? = some row := by simpa [hrun] using hkept
    exact width_le_length hrun

theorem mem_failing {p : RowTransform} {rows : List Row} {number : ℕ} {fault : Fault} :
    (number, fault) ∈ p.failing 0 rows ↔
      ∃ values, rows[number]? = some values ∧ p.run values = .error fault := by
  simp only [failing, List.mem_filterMap, Prod.exists, List.mem_zipIdx_iff_getElem?]
  constructor
  · rintro ⟨values, there, hthere, hfails⟩
    cases hrun : p.run values with
    | ok row => simp [hrun] at hfails
    | error stop =>
      obtain ⟨rfl, rfl⟩ : there = number ∧ stop = fault := by simpa [hrun] using hfails
      exact ⟨values, hthere, hrun⟩
  · rintro ⟨values, hthere, hrun⟩
    exact ⟨values, number, hthere, by simp [hrun]⟩

/-- Rows fail in the order of their numbers, each once. -/
theorem pairwise_failing (p : RowTransform) (start : ℕ) (rows : List Row) :
    ((p.failing start rows).map (·.1)).Pairwise (· < ·) := by
  have hrows : (rows.zipIdx start).Pairwise fun a b => a.2 < b.2 := by
    rw [← List.pairwise_map, List.zipIdx_map_snd]
    exact List.pairwise_lt_range'
  rw [List.pairwise_map]
  refine hrows.filterMap _ fun a b hab failed hfailed later hlater => ?_
  cases ha : p.run a.1 <;> cases hb : p.run b.1 <;> simp [ha, hb] at hfailed hlater
  rw [← hfailed, ← hlater]
  exact hab

/-- Every row passes, is rejected or fails. -/
theorem length_eq_fates (p : RowTransform) (start : ℕ) (rows : List Row) :
    rows.length = (p.accepted rows).length + (p.rejected rows).length +
      (p.failing start rows).length := by
  induction rows generalizing start with
  | nil => rfl
  | cons values rows ih =>
    have hrest := ih (start + 1)
    simp only [accepted, rejected, failing] at hrest ⊢
    rw [List.zipIdx_cons, List.filterMap_cons, List.filterMap_cons, List.filter_cons,
      List.length_cons, hrest]
    cases p.run values with
    | error fault => simp; omega
    | ok kept? => cases kept? <;> simp <;> omega

end RowTransform

/-- Slots that a row has can be picked from it. -/
theorem Row.cells_eq_ok {row : Row} {slots : List ℕ} (h : ∀ slot ∈ slots, slot < row.length) :
    row.cells slots = .ok (slots.map fun slot => row.getD slot .null) := by
  obtain ⟨cells, hcells⟩ := exists_cells_iff.2 h
  rw [hcells, eq_map_of_cells hcells]

namespace Plan

variable {transform : RowTransform} {slots : List ℕ}

/-- A row is put out, or fails, as the transform says: choosing slots that there are adds no
failure. -/
theorem rowStep_eq (hslots : ∀ slot ∈ slots, slot < transform.width) (values : Row) :
    rowStep transform slots values =
      (transform.run values).map fun kept? =>
        kept?.toList.map fun row => slots.map fun slot => row.getD slot .null := by
  unfold rowStep
  cases hrun : transform.run values with
  | error fault => rfl
  | ok kept? =>
    cases kept? with
    | none => rfl
    | some row =>
      have hwidth := RowTransform.width_le_length hrun
      simp only [ok_bind, Row.cells_eq_ok fun slot hslot => (hslots slot hslot).trans_le hwidth]
      rfl

end Plan

/-- Only columns that are not deleted can be chosen. -/
theorem Table.chosenSlots_subset_live {c : Catalog} {select : Option (List Value)} {slots : List ℕ}
    (h : Table.chosenSlots c select = .ok slots) : slots ⊆ c.live := by
  cases select with
  | none => exact (Except.ok.inj h) ▸ List.Subset.refl _
  | some select =>
    obtain ⟨places, -, hplaces⟩ := bind_eq_ok.1 h
    intro slot hslot
    rw [← Except.ok.inj hplaces] at hslot
    obtain ⟨place, -, hplace⟩ := List.mem_filterMap.1 hslot
    exact List.mem_of_getElem? hplace

/-- A plan of rows chooses among the slots that its transform fills. -/
theorem Table.lt_width_of_plan {t : Table} {options : RunOptions} {formatted : Bool} {p : Plan}
    (h : t.plan options formatted = .ok p) {source : Source} {transform : RowTransform}
    {slots : List ℕ} (hwork : p.work = .rows source transform slots) :
    source = t.source ∧ ∀ slot ∈ slots, slot < transform.width := by
  obtain ⟨-, select, ⟨-, hgroups⟩ | ⟨-, hrows⟩⟩ := Table.plan_eq_ok h
  · obtain ⟨positions, group, -, hgroup, -⟩ := Table.groupWork_eq_ok hgroups
    rw [hwork] at hgroup
    cases hgroup
  · obtain ⟨chosen, hchosen, hrow⟩ := Table.rowWork_eq_ok hrows
    obtain ⟨rfl, rfl, rfl⟩ : source = t.source ∧
        transform = RowTransform.ofTable t.catalog t.rules formatted ∧ slots = chosen := by
      simpa [hwork] using hrow
    exact ⟨rfl, fun slot hslot => Catalog.lt_width_of_isLive
      (List.mem_filter.1 (Table.chosenSlots_subset_live hchosen hslot)).2⟩

namespace Backend

variable {b : Backend} {transform : RowTransform} {slots : List ℕ}

/-- One pass over rows hands out the accepted ones, cut down to the chosen slots. -/
theorem items_singlePass (hslots : ∀ slot ∈ slots, slot < transform.width) (rows : List Row) :
    (singlePass .rows (Plan.rowStep transform slots) (Feed.numbered ⟨rows, none⟩).items).items =
      (transform.accepted rows).map fun row => slots.map fun slot => row.getD slot .null := by
  have hpass : (singlePass .rows (Plan.rowStep transform slots)
      (Feed.numbered ⟨rows, none⟩).items).items =
        rows.flatMap fun values => made (Plan.rowStep transform slots values) := by
    have hvalues : (Feed.numbered ⟨rows, none⟩).items.map (fun row => row.values) = rows :=
      Feed.numbered_values ⟨rows, none⟩
    conv_rhs => rw [← hvalues, List.flatMap_map]
    rfl
  rw [hpass, RowTransform.accepted, List.map_filterMap, List.filterMap_eq_flatMap_toList]
  refine List.flatMap_congr fun values _ => ?_
  rw [Plan.rowStep_eq hslots]
  cases transform.run values with
  | error fault => rfl
  | ok kept? => cases kept? <;> rfl

/-- One pass over rows reports those on which the transform fails. -/
theorem failures_singlePass (hslots : ∀ slot ∈ slots, slot < transform.width) (rows : List Row) :
    (singlePass .rows (Plan.rowStep transform slots) (Feed.numbered ⟨rows, none⟩).items).failures =
      (transform.failing 0 rows).map fun (number, fault) =>
        { stage := .rows, place := .row number, fault } := by
  rw [singlePass, Feed.numbered, List.filterMap_map, RowTransform.failing, List.map_filterMap]
  refine List.filterMap_congr ?_
  rintro ⟨values, number⟩ -
  simp only [Function.comp_apply, rowFailure?, Plan.rowStep_eq hslots]
  cases transform.run values <;> rfl

/-- A report counts what was put out and lists what failed. -/
theorem report_of_execute {p : Plan} {sink : Sink} {store : Store} {opened : Store × Settings}
    {report : Report} (hopen : sink.opened store = .ok opened)
    (h : (b.execute p sink store).1 = .ok report) :
    report.rowsWritten = (b.output opened.1 p).items.length ∧
      report.failures = (b.output opened.1 p).failures := by
  rw [execute_eq hopen] at h
  cases hfill : (Sink.fill opened.2 p.names (b.output opened.1 p).toFeed).2 with
  | some fault => simp [hfill] at h
  | none =>
    simp only [hfill] at h
    rw [← Except.ok.inj h]
    exact ⟨rfl, rfl⟩

/-- What a run puts out has come to its end if the run reports. -/
theorem ended_of_execute {p : Plan} {sink : Sink} {store : Store} {opened : Store × Settings}
    {report : Report} (hopen : sink.opened store = .ok opened)
    (h : (b.execute p sink store).1 = .ok report) : (b.output opened.1 p).fault = none := by
  rw [execute_eq hopen] at h
  cases hfill : (Sink.fill opened.2 p.names (b.output opened.1 p).toFeed).2 with
  | some fault => simp [hfill] at h
  | none => exact Sink.fault_of_fill hfill

/-- A run whose output is not in the place of a source reports and writes what it puts out. -/
theorem holds_of_execute {p : Plan} {sink : Sink} {store left : Store} {report : Report}
    (h : b.execute p sink store = (.ok report, left))
    (hapart : ∀ source ∈ p.work.sources, store.place? sink.uri ≠ store.place? source.uri) :
    report.failures = (b.output store p).failures ∧ ∃ settings, sink.opening = .ok settings ∧
      sink.Holds settings p.names (b.output store p).items left report.rowsWritten := by
  have hwrite : sink.write p.names (fun before => (b.output before p).toFeed) store =
      (.ok report.rowsWritten, left) := by
    rw [← write_of_execute, h]
    rfl
  have hholds := Sink.holds_of_write
    (fun before after hsame => congrArg Outcome.toFeed (output_congr hsame)) hapart hwrite
  refine ⟨?_, hholds.2⟩
  cases hopen : sink.opened store with
  | error fault => simp [execute, hopen] at h
  | ok opened =>
    rw [(report_of_execute hopen (congrArg Prod.fst h)).2]
    obtain ⟨emptied, settings⟩ := opened
    obtain ⟨at_, hat, rfl⟩ := (Sink.opened_eq_ok hopen).2
    refine congrArg Outcome.failures (output_congr fun source hsource => ?_)
    exact Source.rows_put_of_elsewhere
      (fun hthere => hapart source hsource (hat.trans hthere.symm)) []

/-- A plan of rows accounts for every row of its source: whatever the size of the batches and the
number of workers, with order kept and failures reported, the accepted rows are put out in the order
of the file, each row that fails is reported once under its number and with its fault, and what is
neither put out nor reported was rejected by a filter. -/
theorem rows_accounted {t : Table} {options : RunOptions} {formatted : Bool} {p : Plan}
    {source : Source} (hplan : t.plan options formatted = .ok p)
    (hwork : p.work = .rows source transform slots) (hsize : 0 < p.batchSize)
    (hworkers : 0 < b.workers) (hwindow : 0 < b.window) (horder : b.InOrder)
    (hreports : b.raiseOnError = false) (rows : List Row) :
    let outcome := b.workThrough .rows p.batchSize (Plan.rowStep transform slots) ⟨rows, none⟩
    (∀ store, source.rows store = ⟨rows, none⟩ → b.output store p = outcome) ∧
      (∀ store sink opened report, sink.opened store = .ok opened →
        source.rows opened.1 = ⟨rows, none⟩ → (b.execute p sink store).1 = .ok report →
          report.rowsWritten = outcome.items.length ∧ report.failures = outcome.failures) ∧
      outcome.fault = none ∧
      outcome.items.map .ok = (transform.accepted rows).map (fun row => row.cells slots) ∧
      outcome.failures = (transform.failing 0 rows).map (fun (number, fault) =>
        { stage := .rows, place := .row number, fault }) ∧
      outcome.failures.map (fun failure => (failure.rowId?, failure.error)) =
        (transform.failing 0 rows).map (fun (number, fault) => (some number, fault.line)) ∧
      (∀ number fault, (number, fault) ∈ transform.failing 0 rows ↔
        ∃ values, rows[number]? = some values ∧ transform.run values = .error fault) ∧
      ((transform.failing 0 rows).map (·.1)).Pairwise (· < ·) ∧
      rows.length = outcome.items.length + (transform.rejected rows).length +
        outcome.failures.length := by
  intro outcome
  have hslots := (Table.lt_width_of_plan hplan hwork).2
  have hpass : outcome = singlePass .rows (Plan.rowStep transform slots)
      (Feed.numbered ⟨rows, none⟩).items := by
    obtain ⟨order, hcourse, -, hpass, -⟩ := workThrough_contained b hworkers hwindow p.batchSize
      (rfl : (⟨rows, none⟩ : Feed Row).fault = none) .rows (Plan.rowStep transform slots)
    rw [(hcourse.order_perm).2 horder, Feed.batches_flatten hsize rfl,
      ← eq_reporting hreports] at hpass
    exact hpass
  have hitems := items_singlePass hslots rows
  have hfailures := failures_singlePass hslots rows
  rw [← hpass] at hitems hfailures
  have houtput : ∀ store, source.rows store = ⟨rows, none⟩ → b.output store p = outcome := by
    intro store hstore
    simp only [output, hwork, hstore]
    rfl
  refine ⟨houtput, ?_, ?_, ?_, hfailures, ?_, fun _ _ => RowTransform.mem_failing,
    transform.pairwise_failing 0 rows, ?_⟩
  · intro store sink opened report hopened hstore hreport
    rw [← houtput _ hstore]
    exact report_of_execute hopened hreport
  · rw [hpass]
    rfl
  · rw [hitems, List.map_map]
    refine List.map_congr_left fun row hrow => ?_
    have hwidth := RowTransform.width_le_of_mem_accepted hrow
    exact (Row.cells_eq_ok fun slot hslot => (hslots slot hslot).trans_le hwidth).symm
  · rw [hfailures, List.map_map]
    rfl
  · rw [hitems, hfailures, List.length_map, List.length_map]
    exact transform.length_eq_fates 0 rows

end Backend

/-! ### Four rows, one of which is rejected and one of which fails -/

/-- Holds of the first letter, not of the second, and fails on all others. -/
def firstOfTwo : Func :=
  .unary "first_of_two" fun v =>
    if Datum.equal v (.text "a") then .ok (.bool true)
    else if Datum.equal v (.text "b") then .ok (.bool false)
    else .error (.eval .badCount)

def sievedTable : Table :=
  { sampleTable with
    rules := { filters := [{ columns := [0], predicate := firstOfTwo, position := 0 }] } }

def sievedPlan : Plan where
  names := [.text "k", .text "v"]
  options := {}
  batchSize := 1
  work := .rows sampleSource
    { parsers := [none, none], width := 2
      steps := [.filter { columns := [0], predicate := firstOfTwo, position := 0 }] } [0, 1]

def fourRows : List Row := [
  [.text "a", .text "1"], [.text "b", .text "2"], [.text "c", .text "3"], [.text "a", .text "4"]]

theorem rows_accounted_four :
    let outcome := twoWorkers.reporting.workThrough .rows 1 (Plan.rowStep
      { parsers := [none, none], width := 2
        steps := [.filter { columns := [0], predicate := firstOfTwo, position := 0 }] } [0, 1])
      ⟨fourRows, none⟩
    outcome.items.map (.ok : Row → Except Fault Row) =
        [.ok [.text "a", .text "1"], .ok [.text "a", .text "4"]] ∧
      outcome.failures.map (fun failure => (failure.rowId?, failure.error)) =
        [(some 2, (Fault.eval .badCount).line)] := by
  obtain ⟨-, -, -, hitems, -, hfailures, -⟩ := Backend.rows_accounted (b := twoWorkers.reporting)
    (p := sievedPlan) (rfl : sievedTable.plan {} false = .ok sievedPlan) rfl (by decide)
    (by decide) (by decide) (.inr rfl) rfl fourRows
  exact ⟨hitems, hfailures⟩

end TablePipeline
