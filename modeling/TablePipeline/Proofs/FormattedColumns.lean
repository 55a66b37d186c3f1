import Mathlib
import TablePipeline.Proofs.DryRun
import TablePipeline.Proofs.JoinSelection
import TablePipeline.Proofs.SlotUse
import TablePipeline.Proofs.SortedOutput

/-!
Columns and their formatters. What is put out of a row is, column by column, its value through the
formatter of the column, whether rows are written as they are read, sorted or joined. A sort and a
join call no other formatters. The transform of rows that are written as they are read runs all
formatters of the catalog, however, also those of columns that were deleted or are not chosen; so it
takes exactly the rows that every one of them takes.
-/
namespace TablePipeline

/-- A formatter takes the value that a row has in its slot. -/
def Row.IsTakenBy (row : Row) (entry : ℕ × Func) : Prop :=
  ∃ v, entry.2.apply [row.getD entry.1 .null] = .ok v

namespace Catalog

variable {c : Catalog} {row : Row} {slots : List ℕ}

/-- The formatters of different slots are found under their slots. -/
theorem Formats.formatter?_eq_some (h : c.Formats) {slot : ℕ} {f : Func} :
    c.formatter? slot = some f ↔ (slot, f) ∈ c.formatters := by
  rw [formatter?, List.lookup_eq_some_iff]
  constructor
  · rintro ⟨before, rest, hsplit, -⟩
    simp [hsplit]
  · intro hmem
    obtain ⟨before, rest, hsplit⟩ := List.append_of_mem hmem
    refine ⟨before, rest, hsplit, fun entry hentry => ?_⟩
    have honce := h.1
    rw [hsplit, List.map_append, List.nodup_append] at honce
    simpa using (honce.2.2 entry.1 (List.mem_map_of_mem hentry) slot (by simp)).symm

/-- No formatter fails if and only if each takes its value. -/
theorem formatFault?_eq_none :
    c.formatFault? row = none ↔ ∀ entry ∈ c.formatters, row.IsTakenBy entry := by
  rw [formatFault?, faultAmong?, List.findSome?_eq_none_iff]
  refine forall₂_congr fun entry _ => ?_
  change Fault.of? (entry.2.apply [row.getD entry.1 .null]) = none ↔ _
  rw [Row.IsTakenBy]
  cases entry.2.apply [row.getD entry.1 .null] <;> simp only [Fault.of?, reduceCtorEq, exists_false,
    Except.ok.injEq, exists_eq']

/-- Columns can be put out exactly if their own formatters take their values. -/
theorem exists_formattedAt_iff (h : c.Formats) (hslots : ∀ slot ∈ slots, slot < row.length) :
    (∃ cells, c.formattedAt slots row = .ok cells) ↔
      ∀ entry ∈ c.formatters, entry.1 ∈ slots → row.IsTakenBy entry := by
  rw [formattedAt, exists_mapM_ok_iff]
  constructor
  · intro hall entry hentry hslot
    have htaken := hall entry.1 hslot
    rwa [through_getD (hslots _ hslot), h.formatter?_eq_some.2 hentry] at htaken
  · intro htaken slot hslot
    rw [through_getD (hslots slot hslot)]
    cases hf : c.formatter? slot with
    | none => exact ⟨_, rfl⟩
    | some f => exact htaken (slot, f) (h.formatter?_eq_some.1 hf) hslot

/-- Where some columns can be put out, all formatters take their values if those of the other columns
do. -/
theorem taken_iff_of_formattedAt (h : c.Formats) (hslots : ∀ slot ∈ slots, slot < row.length)
    (hown : ∃ cells, c.formattedAt slots row = .ok cells) :
    (∀ entry ∈ c.formatters, row.IsTakenBy entry) ↔
      ∀ entry ∈ c.formatters, entry.1 ∉ slots → row.IsTakenBy entry := by
  refine ⟨fun hall entry hentry _ => hall entry hentry, fun hrest entry hentry => ?_⟩
  by_cases hslot : entry.1 ∈ slots
  · exact (exists_formattedAt_iff h hslots).1 hown entry hentry hslot
  · exact hrest entry hentry hslot

end Catalog

/-! ### Rows that are written as they are read -/

namespace Plan

variable {c : Catalog} {rules : RowRules} {slots : List ℕ} {values row : Row}

/-- The step of a plan of rows, in terms of the row that is kept. -/
theorem rowStep_kept {transform : RowTransform} (hslots : ∀ slot ∈ slots, slot < transform.width)
    (values : Row) :
    rowStep transform slots values = (transform.kept values).map fun kept? => kept?.toList.map
      fun row => Datum.forgetItems false (slots.map fun slot => row.getD slot .null) := by
  rw [rowStep_eq hslots, RowTransform.run_eq_kept]
  cases transform.kept values with
  | error fault => rfl
  | ok kept? =>
    cases kept? with
    | none => rfl
    | some row =>
      have hcells : (slots.map fun slot => (Datum.forgetItems false row).getD slot .null) =
          Datum.forgetItems false (slots.map fun slot => row.getD slot .null) := by
        rw [Datum.forgetItems_eq_map false (slots.map _), List.map_map]
        exact List.map_congr_left fun slot _ => Datum.getD_forgetItems false row slot
      exact congrArg (fun cells => Except.ok [cells]) hcells

/-- A row that is not accepted without formatters has the same fate with them. -/
theorem rowStep_of_not_kept (hslots : ∀ slot ∈ slots, slot < c.width)
    (h : ∀ row, (RowTransform.ofTable c rules false).kept values ≠ .ok (some row)) :
    rowStep (RowTransform.ofTable c rules true) slots values =
      rowStep (RowTransform.ofTable c rules false) slots values := by
  rw [rowStep_kept hslots, rowStep_kept hslots, RowTransform.kept_formatted]
  cases hkept : (RowTransform.ofTable c rules false).kept values with
  | error fault => rfl
  | ok kept? =>
    cases kept? with
    | none => rfl
    | some row => exact absurd hkept (h row)

/-- A row that is accepted without formatters is put out formatted, or fails with the first formatter
of the catalog that does not take its value. -/
theorem rowStep_of_kept (hformats : c.Formats) (hslots : ∀ slot ∈ slots, slot < c.width)
    (h : (RowTransform.ofTable c rules false).kept values = .ok (some row)) :
    match c.formatFault? row with
    | some fault => rowStep (RowTransform.ofTable c rules true) slots values = .error fault
    | none => ∃ cells, c.formattedAt slots row = .ok cells ∧
        rowStep (RowTransform.ofTable c rules true) slots values =
          .ok [Datum.forgetItems false cells] := by
  have hkept := RowTransform.kept_of_formats hformats h
  have hlength : c.width ≤ row.length := RowTransform.width_le_of_kept h
  rw [rowStep_kept hslots]
  cases hfault : c.formatFault? row with
  | some fault =>
    simp only [hfault] at hkept ⊢
    rw [hkept]
    rfl
  | none =>
    simp only [hfault] at hkept ⊢
    obtain ⟨shown, hshown, hby⟩ := hkept
    obtain ⟨cells, hcells, hsame⟩ := map_eq_ok.1 (Catalog.formattedAt_of_formattedBy hby false
      fun slot hslot => (hslots slot hslot).trans_le hlength)
    refine ⟨cells, hcells, ?_⟩
    rw [hshown, hsame]
    rfl

end Plan

/-- What comes of a row that is accepted without formatters, when some columns of it are to be put
out. -/
structure Catalog.PutsOut (c : Catalog) (slots : List ℕ) (row : Row)
    (outcome : Except Fault (List Row)) : Prop where
  /-- If it is put out, then with each column as it comes through the formatter of this column. -/
  cells : ∀ rows, outcome = .ok rows → ∃ cells, c.formattedAt slots row = .ok cells ∧
    rows = [Datum.forgetItems false cells]
  /-- It is put out exactly if every formatter of the catalog takes its value. -/
  taken : (∃ rows, outcome = .ok rows) ↔ ∀ entry ∈ c.formatters, row.IsTakenBy entry
  /-- If it is not, the first formatter that does not take its value is reported. -/
  fault : ∀ fault, outcome = .error fault ↔ c.formatFault? row = some fault
  /-- Where the formatters of these columns take their values, it depends on the others alone. -/
  others : (∃ cells, c.formattedAt slots row = .ok cells) →
    ((∃ rows, outcome = .ok rows) ↔
      ∀ entry ∈ c.formatters, entry.1 ∉ slots → row.IsTakenBy entry)

theorem Catalog.putsOut_rowStep {c : Catalog} {rules : RowRules} {slots : List ℕ} {values row : Row}
    (hformats : c.Formats) (hslots : ∀ slot ∈ slots, slot < c.width)
    (h : (RowTransform.ofTable c rules false).kept values = .ok (some row)) :
    c.PutsOut slots row (Plan.rowStep (RowTransform.ofTable c rules true) slots values) := by
  have hstep := Plan.rowStep_of_kept hformats hslots h
  have hlength : ∀ slot ∈ slots, slot < row.length := fun slot hslot =>
    (hslots slot hslot).trans_le (RowTransform.width_le_of_kept h)
  have hothers := fun hown => taken_iff_of_formattedAt hformats hlength hown
  rw [← formatFault?_eq_none] at hothers
  cases hfault : c.formatFault? row with
  | none =>
    simp only [hfault] at hstep hothers
    obtain ⟨cells, hcells, houtcome⟩ := hstep
    rw [houtcome]
    exact {
      cells := fun rows hrows => ⟨cells, hcells, (Except.ok.inj hrows).symm⟩
      taken := by rw [← formatFault?_eq_none, hfault]; simp
      fault := by simp [hfault]
      others := fun hown => by simpa using hothers hown }
  | some fault =>
    simp only [hfault, reduceCtorEq, false_iff] at hstep hothers
    rw [hstep]
    exact {
      cells := fun rows hrows => by cases hrows
      taken := by rw [← formatFault?_eq_none, hfault]; simp
      fault := by simp [hfault]
      others := fun hown => by simpa using hothers hown }

/-! ### Rows that are joined -/

/-- A column that comes through its formatter is there without it. -/
theorem JoinSide.exists_plain {side : JoinSide} {row shown : Row}
    (h : side.carry.mapM (through row) = .ok shown) :
    ∃ plain, side.withoutFormats.carry.mapM (through row) = .ok plain := by
  rw [withoutFormats, mapM_map]
  refine exists_mapM_ok_iff.2 fun part hpart => ?_
  obtain ⟨_, hv⟩ := exists_mapM_ok_iff.1 ⟨shown, h⟩ part hpart
  obtain ⟨v, hcell, -⟩ := bind_eq_ok.1 hv
  exact ⟨v, by rw [through, hcell]; rfl⟩

theorem JoinSide.sameRows_withoutFormats (side : JoinSide) :
    SameRows side side.withoutFormats ∧ SameRows side.withoutFormats side :=
  ⟨⟨rfl, rfl, rfl, rfl, rfl⟩, ⟨rfl, rfl, rfl, rfl, rfl⟩⟩

/-- A join takes a row with formatters if it takes it without, and the formatters of the columns that
it brings along take their values. -/
theorem JoinSpec.record_side_eq_ok {t : Table} {keys : List (ℕ × Option Func)} {slots : List ℕ}
    {roll? : Option ℕ} {row : Row} {r : JoinRecord} :
    (side t keys slots roll?).record row = .ok r ↔
      t.catalog.formattedAt slots row = .ok r.values ∧
        ∃ plain, (side t keys slots roll?).withoutFormats.record row =
          .ok { r with values := plain } := by
  have hcarry : (side t keys slots roll?).carry.mapM (JoinSide.through row) =
      t.catalog.formattedAt slots row := mapM_map slots
  obtain ⟨hplainly, hback⟩ := JoinSide.sameRows_withoutFormats (side t keys slots roll?)
  constructor
  · intro h
    have hvalues := mapM_eq_ok_iff.2 (JoinSide.values_of_record h)
    obtain ⟨plain, hplain⟩ := JoinSide.exists_plain hvalues
    exact ⟨hcarry ▸ hvalues, plain, hplainly.record_eq_ok h hplain⟩
  · rintro ⟨hvalues, plain, h⟩
    have htaken := hback.record_eq_ok h (hcarry.trans hvalues)
    exact htaken

/-! ### All runs of a table -/

/-- What a table that makes no groups puts out, in terms of its transform without formatters. A row
that this transform rejects or fails on has the same fate with formatters. Of a row that it accepts
the chosen columns are put out as they come through their own formatters, which is what a sort and a
join do as well; but it is put out only if every formatter of the catalog takes its value in the row,
also those of columns that are not chosen or not there any more. -/
theorem Table.rows_put_out {t : Table} (ht : t.Reachable) (hgroups : t.rules.makesGroups = false)
    {options : RunOptions} {p : Plan} (hplan : t.plan options true = .ok p) :
    let plain := RowTransform.ofTable t.catalog t.rules false
    let formatted := RowTransform.ofTable t.catalog t.rules true
    ∃ slots ⊆ t.catalog.live, p.names = slots.map t.catalog.nameOf ∧
      p.work = .rows t.source formatted slots ∧
      (∀ (b : Backend) (store : Store), 0 < b.workers → 0 < b.window → 0 < t.batchSize →
        (t.source.rows store).fault = none →
          ∃ order : List NumberedRow, order.Perm (t.source.rows store).numbered.items ∧
            (b.InOrder → order = (t.source.rows store).numbered.items) ∧
            b.reporting.output store p =
              Backend.singlePass .rows (Plan.rowStep formatted slots) order) ∧
      (∀ values, (∀ row, plain.kept values ≠ .ok (some row)) →
        Plan.rowStep formatted slots values = Plan.rowStep plain slots values) ∧
      (∀ values row, plain.kept values = .ok (some row) →
        t.catalog.PutsOut slots row (Plan.rowStep formatted slots values)) ∧
      (∀ row, Table.formattedCells t.catalog row = t.catalog.formattedAt t.catalog.live row) ∧
      ∀ keys roll? row r, (JoinSpec.side t keys slots roll?).record row = .ok r ↔
        t.catalog.formattedAt slots row = .ok r.values ∧
          ∃ values, (JoinSpec.side t keys slots roll?).withoutFormats.record row =
            .ok { r with values } := by
  intro plain formatted
  obtain ⟨ds, hds⟩ := ht.exists_fills
  obtain ⟨hbatch, select, ⟨hmakes, -⟩ | ⟨-, hwork⟩⟩ := Table.plan_eq_ok hplan
  · cases hgroups.symm.trans hmakes
  · obtain ⟨slots, hchosen, h⟩ := bind_eq_ok.1 hwork
    obtain ⟨-, h⟩ := guard_eq_ok.1 h
    obtain ⟨hnames, hrows⟩ := Prod.mk.inj (Except.ok.inj h)
    have hlive := Table.chosenSlots_subset_live hchosen
    have hslots : ∀ slot ∈ slots, slot < t.catalog.width := fun slot hslot =>
      Catalog.lt_width_of_isLive (Catalog.mem_live.1 (hlive hslot)).2
    refine ⟨slots, hlive, hnames.symm, hrows.symm, fun b store hworkers hwindow hsize hread => ?_,
      fun values => Plan.rowStep_of_not_kept hslots,
      fun values row => Catalog.putsOut_rowStep hds.formats hslots,
      Table.formattedCells_eq t.catalog, fun keys roll? row r => JoinSpec.record_side_eq_ok⟩
    obtain ⟨order, hperm, hsame, hrun, -⟩ := Backend.exists_order hworkers hwindow (hbatch ▸ hsize)
      hread .rows (Plan.rowStep formatted slots)
    refine ⟨order, hperm, hsame, ?_⟩
    rw [← hrun, Backend.output, ← hrows]

/-! ### Two rows and a formatter that takes one of them -/

/-- The first row is put out and the second is not, as the formatter says. -/
theorem rows_put_out_shown :
    let formatted := RowTransform.ofTable shownTable.catalog shownTable.rules true
    shownTable.catalog.PutsOut [0, 1] [.text "a", .text "1"]
        (Plan.rowStep formatted [0, 1] [.text "a", .text "1"]) ∧
      shownTable.catalog.PutsOut [0, 1] [.text "b", .text "2"]
        (Plan.rowStep formatted [0, 1] [.text "b", .text "2"]) ∧
      Plan.rowStep formatted [0, 1] [.text "a", .text "1"] = .ok [[.text "a", .text "1"]] ∧
      Plan.rowStep formatted [0, 1] [.text "b", .text "2"] = .error (.eval .badCount) := by
  have hreachable : shownTable.Reachable := by
    have hafter := reachable_sample [(sampleStore, showing)]
    rwa [Table.after, edit_showing] at hafter
  obtain ⟨slots, -, -, hwork, -, -, hrow, -⟩ :=
    Table.rows_put_out hreachable rfl plan_shown
  obtain ⟨-, -, rfl⟩ := PlanWork.rows.inj hwork
  exact ⟨hrow _ _ rfl, hrow _ _ rfl, rfl, rfl⟩

/-- The table whose first column is deleted after it got its formatter. -/
def hiddenTable : Table :=
  { shownTable with
    catalog := { shownTable.catalog with
      slots := [{ name := .text "k", deleted := true }, { name := .text "v" }] } }

def hiddenPlan : Plan where
  names := [.text "v"]
  options := {}
  batchSize := 1
  work := .rows sampleSource (RowTransform.ofTable hiddenTable.catalog {} true) [1]

theorem edit_hidden : shownTable.edit sampleStore (.delete (.text "k")) = (.ok (), hiddenTable) :=
  Table.edit_of_steps rfl (dryRun_sample rfl rfl rfl)

theorem output_hidden : (Backend.ofOptions {}).output targetOpened.1 hiddenPlan =
    { items := [[.text "1"]]
      failures := [{ stage := .rows, place := .row 1, fault := .eval .badCount }] } := by
  simp only [Backend.output, hiddenPlan, Backend.workThrough, rows_target, batches_sample]
  rfl

/-- The formatter of a column keeps a row from being put out after the column was deleted, and where
the column is not chosen. The transform without formatters accepts the row, and the column that is put
out has no formatter; a sort puts the row out. -/
theorem formatter_of_deleted :
    shownTable.edit sampleStore (.delete (.text "k")) = (.ok (), hiddenTable) ∧
      hiddenTable.plan {} true = .ok hiddenPlan ∧ hiddenTable.catalog.live = [1] ∧
      (RowTransform.ofTable hiddenTable.catalog {} false).kept [.text "b", .text "2"] =
        .ok (some [.text "b", .text "2"]) ∧
      hiddenTable.catalog.formattedAt [1] [.text "b", .text "2"] = .ok [.text "2"] ∧
      Table.formattedCells hiddenTable.catalog [.text "b", .text "2"] = .ok [.text "2"] ∧
      ((Backend.ofOptions {}).execute hiddenPlan targetSink sampleStore).1 =
        .ok { output := "o.csv", rowsWritten := 1,
              failures := [{ stage := .rows, place := .row 1, fault := .eval .badCount }] } ∧
      ∃ p, shownTable.plan { select := some ["v"] } true = .ok p ∧
        p.work = .rows sampleSource (RowTransform.ofTable shownTable.catalog {} true) [1] ∧
        shownTable.catalog.formattedAt [1] [.text "b", .text "2"] = .ok [.text "2"] ∧
        Plan.rowStep (RowTransform.ofTable shownTable.catalog {} true) [1]
          [.text "b", .text "2"] = .error (.eval .badCount) := by
  refine ⟨edit_hidden, rfl, rfl, rfl, rfl, rfl, ?_, _, rfl, rfl, rfl, rfl⟩
  have hwrites : Sink.Writes hiddenPlan.names [[.text "1"]] targetOpened :=
    Option.isNone_iff_eq_none.1 (by decide +kernel)
  rw [Backend.execute_eq opened_target, output_hidden, Sink.fill_of_writes hwrites List.prefix_rfl]
  rfl

end TablePipeline
