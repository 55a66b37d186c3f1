import Mathlib
import TablePipeline.Proofs.Columns
import TablePipeline.Proofs.Editing
import TablePipeline.Proofs.SourceText

/-!
The row transform of a table replays its edits. Operations and filters are kept in two lists, and a
filter remembers only how many operations came before it; yet putting the two lists together gives the
order in which they were declared, whatever other edits took place or failed in between. So a row goes
through the operations and filters one by one as they were declared, and each of them once.
-/
namespace TablePipeline

namespace Declaration

/-! ### The order of declarations -/

theorem operations_append (ds es : List Declaration) :
    operations (ds ++ es) = operations ds ++ operations es := by
  induction ds with
  | nil => rfl
  | cons d ds ih => cases d <;> simp [operations, ih]

theorem filters_append (i : ℕ) (ds es : List Declaration) :
    filters i (ds ++ es) = filters i ds ++ filters (i + (operations ds).length) es := by
  induction ds generalizing i with
  | nil => rfl
  | cons d ds ih =>
    cases d with
    | operation func inputs output =>
      simp only [List.cons_append, filters, operations, List.length_cons, ih]
      congr 2
      omega
    | filter columns predicate => simp [filters, operations, ih]

/-- The steps of declarations in their order. -/
def steps : ℕ → List Declaration → List RowStep
  | _, [] => []
  | i, operation func inputs output :: rest =>
    .operation { func, inputs, output } :: steps (i + 1) rest
  | i, filter columns predicate :: rest =>
    .filter { columns, predicate, position := i } :: steps i rest

/-- A filter stands between the operations before it and those after it. -/
theorem position_of_mem_filters {i : ℕ} {ds : List Declaration} {f : RowFilter}
    (h : f ∈ filters i ds) : (i : ℤ) ≤ f.position ∧ f.position ≤ i + (operations ds).length := by
  induction ds generalizing i with
  | nil => cases h
  | cons d ds ih =>
    cases d with
    | operation func inputs output =>
      have hrest := ih (show f ∈ filters (i + 1) ds from h)
      simp only [operations, List.length_cons]
      push_cast at hrest ⊢
      omega
    | filter columns predicate =>
      rcases List.mem_cons.1 h with rfl | h
      · simp [operations]
      · exact ih h

end Declaration

namespace RowTransform

open Declaration

/-- Interleaving looks at no filters before the operations that are left. -/
theorem interleave_congr {filtersAt filtersAt' : ℕ → List RowFilter} {i : ℕ} {ops : List Operation}
    (h : ∀ j, i ≤ j → filtersAt j = filtersAt' j) :
    interleave filtersAt i ops = interleave filtersAt' i ops := by
  induction ops generalizing i with
  | nil => rw [interleave, interleave, h i le_rfl]
  | cons op ops ih => rw [interleave, interleave, h i le_rfl, ih fun j hj => h j (by omega)]

/-- A filter that runs before all operations that are left runs first. -/
theorem interleave_cons {p q : ℕ → List RowFilter} {i : ℕ} {ops : List Operation}
    {f : RowFilter} (hfirst : p i = f :: q i)
    (h : ∀ j, i < j → p j = q j) :
    interleave p i ops = .filter f :: interleave q i ops := by
  cases ops with
  | nil => simp [interleave, hfirst]
  | cons op ops =>
    have hrest : interleave p (i + 1) ops = interleave q (i + 1) ops :=
      interleave_congr fun j hj => h j (by omega)
    simp [interleave, hfirst, hrest]

/-- Putting operations and filters together by the positions of the filters gives the order of their
declarations: by induction on the declarations that are left, before which `i` operations came. -/
theorem interleave_filters (i : ℕ) (ds : List Declaration) :
    interleave (fun j => (filters i ds).filter fun f => f.position == j) i (operations ds) =
      Declaration.steps i ds := by
  induction ds generalizing i with
  | nil => rfl
  | cons d ds ih =>
    cases d with
    | operation func inputs output =>
      have hnone : (filters (i + 1) ds).filter (fun f => f.position == (i : ℤ)) = [] := by
        rw [List.filter_eq_nil_iff]
        intro f hf
        have hposition := (position_of_mem_filters hf).1
        push_cast at hposition
        simp only [beq_iff_eq]
        omega
      simp only [filters, operations, interleave, hnone, Declaration.steps, List.map_nil,
        List.nil_append, ih]
    | filter columns predicate =>
      simp only [filters, operations, Declaration.steps]
      rw [interleave_cons (f := { columns, predicate, position := i })
        (q := fun j => (filters i ds).filter fun f => f.position == j), ih]
      · simp
      · intro j hj
        have hother : ((i : ℤ) == (j : ℤ)) = false := by simpa using by omega
        simp [hother]

end RowTransform

/-! ### Running declarations one by one -/

/-- What a step is apart from where it stands. -/
def RowStep.declaration : RowStep → Declaration
  | operation op => .operation op.func op.inputs op.output
  | filter f => .filter f.columns f.predicate

/-- The operation that a step carries out, if it is one. -/
def RowStep.operation? : RowStep → Option Operation
  | operation op => some op
  | filter _ => none

/-- The filter that a step applies, if it is one. -/
def RowStep.filter? : RowStep → Option RowFilter
  | operation _ => none
  | filter f => some f

namespace Declaration

/-- The values of a row in some slots. -/
def read (row : Row) (slots : List ℕ) : List Value := slots.map fun slot => row.getD slot .null

/-- An operation writes its one slot, and a filter rejects the row or leaves it as it is. What is
written is the value of a number that is made from the row. -/
def apply (number : ℕ) (row : Row) : Declaration → Except Fault (Option Row)
  | operation func inputs output => do
    let v ← func.apply (read row inputs)
    .ok (some (row.set output (v.claim number)))
  | filter columns predicate => do
    let v ← predicate.apply (read row columns)
    .ok (if v.truth then some row else none)

/-- Declarations one by one, until a filter rejects the row. -/
def applyAll : ℕ → List Declaration → Row → Except Fault (Option Row)
  | _, [], row => .ok (some row)
  | number, d :: rest, row => do
    match ← d.apply number row with
    | some row => applyAll (number + 1) rest row
    | none => .ok none

theorem length_of_apply {number : ℕ} {row row' : Row} {d : Declaration}
    (h : d.apply number row = .ok (some row')) : row'.length = row.length := by
  cases d with
  | operation func inputs output =>
    obtain ⟨v, -, hv⟩ := bind_eq_ok.1 h
    obtain rfl := Option.some.inj (Except.ok.inj hv)
    exact List.length_set
  | filter columns predicate =>
    obtain ⟨v, -, hv⟩ := bind_eq_ok.1 h
    split_ifs at hv
    · exact congrArg _ (Option.some.inj (Except.ok.inj hv)).symm
    · cases hv

@[simp] theorem declaration_steps (i : ℕ) (ds : List Declaration) :
    (steps i ds).map RowStep.declaration = ds := by
  induction ds generalizing i with
  | nil => rfl
  | cons d ds ih => cases d <;> simp [steps, RowStep.declaration, ih]

/-- Every operation is among the steps once, and in its place. -/
theorem operation?_steps (i : ℕ) (ds : List Declaration) :
    (steps i ds).filterMap RowStep.operation? = operations ds := by
  induction ds generalizing i with
  | nil => rfl
  | cons d ds ih => cases d <;> simp [steps, List.filterMap_cons, RowStep.operation?, operations, ih]

/-- Every filter is among the steps once, and in its place. -/
theorem filter?_steps (i : ℕ) (ds : List Declaration) :
    (steps i ds).filterMap RowStep.filter? = filters i ds := by
  induction ds generalizing i with
  | nil => rfl
  | cons d ds ih => cases d <;> simp [steps, List.filterMap_cons, RowStep.filter?, filters, ih]

end Declaration

theorem Row.cells_eq_read {row : Row} {slots : List ℕ} (h : ∀ slot ∈ slots, slot < row.length) :
    row.cells slots = .ok (Declaration.read row slots) := by
  obtain ⟨vs, hvs⟩ := exists_cells_iff.2 h
  rw [hvs, eq_map_of_cells hvs]
  rfl

/-- A step does what was declared, in a row that has all of its slots. -/
theorem RowStep.apply_eq {number : ℕ} {step : RowStep} {row : Row}
    (h : ∀ slot ∈ step.declaration.slots, slot < row.length) :
    step.apply number row = step.declaration.apply number row := by
  cases step with
  | operation op =>
    have hinputs : row.cells op.inputs = _ :=
      Row.cells_eq_read fun slot hslot => h slot (List.mem_cons_of_mem _ hslot)
    have houtput : op.output < row.length := h op.output (List.mem_cons_self ..)
    simp only [apply, declaration, Declaration.apply, hinputs, ok_bind, Row.put, houtput, if_true]
  | filter f =>
    have hcolumns : row.cells f.columns = _ := Row.cells_eq_read h
    simp only [apply, declaration, Declaration.apply, hcolumns, ok_bind]

theorem RowTransform.runSteps_eq {number : ℕ} {steps : List RowStep} {row : Row}
    (h : ∀ step ∈ steps, ∀ slot ∈ step.declaration.slots, slot < row.length) :
    runSteps number steps row = Declaration.applyAll number (steps.map RowStep.declaration) row := by
  induction steps generalizing number row with
  | nil => rfl
  | cons step steps ih =>
    rw [runSteps, List.map_cons, Declaration.applyAll, RowStep.apply_eq (h step (by simp))]
    cases hstep : step.declaration.apply number row with
    | error fault => rfl
    | ok row? =>
      cases row? with
      | none => rfl
      | some next =>
        refine ih fun step' hstep' slot hslot => ?_
        rw [Declaration.length_of_apply hstep]
        exact h step' (by simp [hstep']) slot hslot

/-! ### The replay of a catalog -/

namespace Catalog

/-- The fields of a row after their parsers: as many as the file has columns, and nothing for a field
that is missing. -/
def fields (c : Catalog) (values : Row) : Except Fault Row :=
  (List.range c.sourceWidth).mapM fun place => do
    let v := values.getD place .null
    let v ←
      match c.slots[place]?.bind (·.parser?) with
      | some parser => parser.apply [v]
      | none => .ok v
    .ok (v.claim place)

/-- The row of all slots that declarations make of the fields of a row. -/
def replay (c : Catalog) (ds : List Declaration) (values : Row) : Except Fault (Option Row) := do
  let fields ← c.fields values
  let row? ← Declaration.applyAll c.sourceWidth ds
    (fields ++ List.replicate (c.width - c.sourceWidth) .null)
  .ok (row?.map (Datum.forgetItems false))

/-- The formatters as declarations, each of which replaces the value of its own slot. -/
def formatting (c : Catalog) : List Declaration :=
  c.formatters.map fun (slot, f) => .operation f [slot] slot

end Catalog

theorem RowTransform.parseFields_eq (number : ℕ) (parsers : List (Option Func)) (values : Row) :
    parseFields number parsers values =
      (List.range parsers.length).mapM (fun place => do
        let v ← parseField parsers[place]?.join (values.getD place .null)
        .ok (v.claim (number + place))) := by
  induction parsers generalizing number values with
  | nil => rfl
  | cons parser? parsers ih =>
    rw [List.length_cons, List.range_succ_eq_map, List.mapM_cons, parseFields, ih]
    have hhead : values.headD .null = values.getD 0 .null := by cases values <;> rfl
    have htail : ∀ place, values.tail.getD place .null = values.getD (place + 1) .null := by
      cases values <;> simp
    have hnumber : ∀ place, number + 1 + place = number + (place + 1) := fun place => by omega
    simp only [mapM_map, hhead, htail, hnumber, List.getElem?_cons_zero, Option.join_some,
      List.getElem?_cons_succ, Nat.succ_eq_add_one, Nat.add_zero]
    cases parseField parser? (values.getD 0 .null) <;> rfl

/-- The fields of a row after their parsers, place by place. -/
theorem Catalog.parseFields_parsers {c : Catalog} (hsource : c.sourceWidth ≤ c.width) (values : Row) :
    RowTransform.parseFields 0 c.parsers values = c.fields values := by
  have hlength : c.parsers.length = c.sourceWidth := by
    rw [parsers, List.length_map, List.length_take]
    exact min_eq_left hsource
  rw [RowTransform.parseFields_eq, fields, hlength]
  apply mapM_congr
  intro place hplace
  have hparser : c.parsers[place]?.join = c.slots[place]?.bind (·.parser?) := by
    rw [parsers, List.getElem?_map, List.getElem?_take_of_lt (List.mem_range.1 hplace)]
    cases c.slots[place]? <;> rfl
  rw [hparser, Nat.zero_add]
  cases c.slots[place]?.bind (·.parser?) <;> rfl

/-! ### Tables and the edits that lead to them -/

namespace Table

/-- What an edit declares if it takes place, and nothing if it fails. -/
def declaredBy (t : Table) (store : Store) (e : Edit) : List Declaration :=
  match (t.edit store e).1 with
  | .ok () => t.declared e
  | .error _ => []

/-- The table after some edits, each of them tried on the files as they were at that time. -/
def after (t : Table) : List (Store × Edit) → Table
  | [] => t
  | (store, e) :: rest => (t.edit store e).2.after rest

/-- What the edits that take place declare, in their order. -/
def declarations (t : Table) : List (Store × Edit) → List Declaration
  | [] => []
  | (store, e) :: rest => t.declaredBy store e ++ (t.edit store e).2.declarations rest

/-- The operations and filters of a table are those that were declared, and all slots are there. -/
structure Declares (t : Table) (ds : List Declaration) : Prop where
  operations : t.catalog.operations = Declaration.operations ds
  filters : t.rules.filters = Declaration.filters 0 ds
  slots : ∀ d ∈ ds, ∀ slot ∈ d.slots, slot < t.catalog.width
  formats : t.catalog.Formats
  source : t.catalog.sourceWidth ≤ t.catalog.width

variable {t t' : Table} {ds declared : List Declaration}

theorem Declares.leads (h : t.Declares ds) (hleads : Edit.Leads t t' declared) :
    t'.Declares (ds ++ declared) where
  operations := by
    rw [hleads.catalog.operations, h.operations, Declaration.operations_append]
  filters := by
    rw [hleads.filters, h.filters, h.operations, Declaration.filters_append, Nat.zero_add]
  slots d hd slot hslot := by
    rcases List.mem_append.1 hd with hd | hd
    · exact (h.slots d hd slot hslot).trans_le hleads.catalog.width
    · exact hleads.slots d hd slot hslot
  formats := hleads.catalog.formats h.formats
  source := hleads.catalog.sourceWidth.trans_le (h.source.trans hleads.catalog.width)

/-- One edit, whether it takes place or fails. -/
theorem Declares.edit (h : t.Declares ds) (store : Store) (e : Edit) :
    (t.edit store e).2.Declares (ds ++ t.declaredBy store e) := by
  unfold declaredBy
  cases hedit : (t.edit store e).1 with
  | ok _ => exact h.leads (leads_of_edit hedit)
  | error fault =>
    obtain ⟨hcatalog, hrules⟩ := edit_of_error hedit
    rw [List.append_nil]
    exact ⟨hcatalog ▸ h.operations, hrules ▸ h.filters, hcatalog ▸ h.slots, hcatalog ▸ h.formats,
      hcatalog ▸ h.source⟩

/-- Edits one after the other. -/
theorem Declares.after (h : t.Declares ds) (history : List (Store × Edit)) :
    (t.after history).Declares (ds ++ t.declarations history) := by
  induction history generalizing t ds with
  | nil => simpa [Table.after, declarations] using h
  | cons call rest ih =>
    rw [Table.after, declarations, ← List.append_assoc]
    exact ih (h.edit call.1 call.2)

/-- A table that has been opened has a catalog of the names in the header, and no rules. -/
theorem catalog_of_ofArgs {store : Store} {path haveHeader batchSize : Arg}
    {settings : FileSettings} (h : ofArgs store path haveHeader batchSize settings = .ok t) :
    Catalog.ofNames t.header = .ok t.catalog ∧ t.rules = {} := by
  obtain ⟨source, -, h⟩ := bind_eq_ok.1 h
  obtain ⟨_, -, h⟩ := bind_eq_ok.1 h
  obtain ⟨columns, -, h⟩ := bind_eq_ok.1 h
  obtain ⟨catalog, hcatalog, h⟩ := bind_eq_ok.1 h
  obtain rfl := Except.ok.inj h
  exact ⟨hcatalog, rfl⟩

/-- A table that has been opened declares nothing yet. -/
theorem declares_of_opened (hcatalog : Catalog.ofNames t.header = .ok t.catalog)
    (hrules : t.rules = {}) : t.Declares [] := by
  obtain ⟨_, -, hcatalog⟩ := bind_eq_ok.1 hcatalog
  have hcatalog := Except.ok.inj hcatalog
  refine ⟨?_, by rw [hrules]; rfl, by simp, ?_, ?_⟩ <;> rw [← hcatalog]
  · rfl
  · exact ⟨List.nodup_nil, by simp⟩
  · simp [Catalog.width]

/-- No edit changes how many columns the file has. -/
theorem sourceWidth_edit (store : Store) (t : Table) (e : Edit) :
    (t.edit store e).2.catalog.sourceWidth = t.catalog.sourceWidth := by
  cases hedit : (t.edit store e).1 with
  | ok _ => exact (leads_of_edit hedit).catalog.sourceWidth
  | error fault => rw [(edit_of_error hedit).1]

theorem sourceWidth_after (history : List (Store × Edit)) (t : Table) :
    (t.after history).catalog.sourceWidth = t.catalog.sourceWidth := by
  induction history generalizing t with
  | nil => rfl
  | cons call rest ih => rw [after, ih, sourceWidth_edit]

/-- The steps of a table are its declarations in their order. No position of a filter is cut off, as
none is greater than the number of operations. -/
theorem Declares.steps_eq (h : t.Declares ds) (formatted : Bool) :
    (RowTransform.ofTable t.catalog t.rules formatted).steps =
      Declaration.steps 0 ds ++
        if formatted then t.catalog.formatOperations.map .operation else [] := by
  have hfilters : RowTransform.filtersAfter t.rules (Declaration.operations ds).length =
      fun i : ℕ => (Declaration.filters 0 ds).filter fun f => f.position == (i : ℤ) := by
    funext i
    rw [RowTransform.filtersAfter, h.filters]
    apply List.filter_congr
    intro f hf
    have hposition := (Declaration.position_of_mem_filters hf).2
    rw [min_eq_left (by simpa using hposition)]
  rw [RowTransform.ofTable, h.operations, hfilters]
  exact congrArg (· ++ _) (RowTransform.interleave_filters 0 ds)

/-- Each operation of the table is a step once, and so is each formatter if there are to be any. -/
theorem Declares.operation?_steps (h : t.Declares ds) (formatted : Bool) :
    (RowTransform.ofTable t.catalog t.rules formatted).steps.filterMap RowStep.operation? =
      t.catalog.allOperations formatted := by
  have hformats : (t.catalog.formatOperations.map RowStep.operation).filterMap RowStep.operation? =
      t.catalog.formatOperations := by
    rw [List.filterMap_map]
    exact List.filterMap_some
  rw [h.steps_eq, List.filterMap_append, Declaration.operation?_steps, ← h.operations]
  cases formatted
  · exact List.append_nil _
  · exact congrArg (_ ++ ·) hformats

/-- Each filter of the table is a step once. -/
theorem Declares.filter?_steps (h : t.Declares ds) (formatted : Bool) :
    (RowTransform.ofTable t.catalog t.rules formatted).steps.filterMap RowStep.filter? =
      t.rules.filters := by
  have hformats : (t.catalog.formatOperations.map RowStep.operation).filterMap RowStep.filter? =
      [] := by
    simp [List.filterMap_map, Function.comp_def, RowStep.filter?]
  rw [h.steps_eq, List.filterMap_append, Declaration.filter?_steps, ← h.filters]
  cases formatted
  · exact List.append_nil _
  · exact (congrArg (_ ++ ·) hformats).trans (List.append_nil _)

/-- What a row goes through: the declarations, and then the formatters if there are to be any. -/
def program (t : Table) (ds : List Declaration) (formatted : Bool) : List Declaration :=
  ds ++ if formatted then t.catalog.formatting else []

theorem Declares.declaration_steps (h : t.Declares ds) (formatted : Bool) :
    (RowTransform.ofTable t.catalog t.rules formatted).steps.map RowStep.declaration =
      t.program ds formatted := by
  have hformats : (t.catalog.formatOperations.map RowStep.operation).map RowStep.declaration =
      t.catalog.formatting := by
    simp [Catalog.formatOperations, Catalog.formatting, RowStep.declaration]
  rw [h.steps_eq, List.map_append, Declaration.declaration_steps, program]
  cases formatted
  · rfl
  · exact congrArg _ hformats

theorem Declares.slots_program (h : t.Declares ds) (formatted : Bool) :
    ∀ d ∈ t.program ds formatted, ∀ slot ∈ d.slots, slot < t.catalog.width := by
  intro d hd slot hslot
  rcases List.mem_append.1 hd with hd | hd
  · exact h.slots d hd slot hslot
  · cases formatted with
    | false => simp at hd
    | true =>
      obtain ⟨⟨there, f⟩, hthere, rfl⟩ := List.mem_map.1 hd
      obtain rfl : slot = there := by simpa [Declaration.slots] using hslot
      exact h.formats.2 slot (List.mem_map_of_mem hthere)

/-- A row is run as its declarations say. -/
theorem Declares.run_eq (h : t.Declares ds) (formatted : Bool) (values : Row) :
    (RowTransform.ofTable t.catalog t.rules formatted).run values =
      t.catalog.replay (t.program ds formatted) values := by
  have hwidth : t.catalog.parsers.length = t.catalog.sourceWidth := by
    rw [Catalog.parsers, List.length_map, List.length_take]
    exact min_eq_left h.source
  have hparsers : (RowTransform.ofTable t.catalog t.rules formatted).parsers = t.catalog.parsers :=
    rfl
  rw [RowTransform.run, RowTransform.kept, Catalog.replay, hparsers, Catalog.parseFields_parsers h.source, hwidth]
  cases hfields : t.catalog.fields values with
  | error fault => rfl
  | ok fields =>
    have hlength : fields.length = t.catalog.sourceWidth := by
      simpa using (congrArg List.length (mapM_eq_ok_iff.1 hfields)).symm
    simp only [ok_bind]
    rw [RowTransform.runSteps_eq, h.declaration_steps]
    · rfl
    · intro step hstep slot hslot
      have hlt := h.slots_program formatted step.declaration
        (h.declaration_steps formatted ▸ List.mem_map_of_mem hstep) slot hslot
      rw [List.length_append, List.length_replicate, hlength]
      exact hlt.trans_le (Nat.add_sub_cancel' h.source).ge

/-- A row goes through the operations and filters of the edits that took place, one by one in their
order, and then through each formatter once. Every operation and every filter of the table is among
the steps once, whatever edits came between them. -/
theorem run_eq_replay {store : Store} {path haveHeader batchSize : Arg} {settings : FileSettings}
    (hopen : ofArgs store path haveHeader batchSize settings = .ok t)
    (history : List (Store × Edit)) (formatted : Bool) :
    let made := t.after history
    let program := made.program (t.declarations history) formatted
    let transform := RowTransform.ofTable made.catalog made.rules formatted
    (∀ values, transform.run values = made.catalog.replay program values) ∧
    made.catalog.sourceWidth = t.header.length ∧
    transform.steps.map RowStep.declaration = program ∧
    transform.steps.filterMap RowStep.operation? = made.catalog.allOperations formatted ∧
    transform.steps.filterMap RowStep.filter? = made.rules.filters ∧
    (made.catalog.formatters.map (·.1)).Nodup := by
  intro made program transform
  obtain ⟨hcatalog, hrules⟩ := catalog_of_ofArgs hopen
  have hmade : made.Declares (t.declarations history) :=
    (declares_of_opened hcatalog hrules).after history
  have hwidth : t.catalog.sourceWidth = t.header.length := by
    obtain ⟨_, -, hcatalog⟩ := bind_eq_ok.1 hcatalog
    rw [← Except.ok.inj hcatalog]
  exact ⟨hmade.run_eq formatted, (sourceWidth_after history t).trans hwidth,
    hmade.declaration_steps formatted, hmade.operation?_steps formatted,
    hmade.filter?_steps formatted, hmade.formats.1⟩

end Table

/-! ### The sample after some edits -/

theorem looksDelimited_sample : Path.looksDelimited "a.csv" = true := by
  have hextension : Path.extension "a.csv" = ".csv" := by
    rw [Path.extension, Path.names, parts_sample]
    decide +kernel
  have hlower : Text.lower ".csv" = ".csv" := by decide +kernel
  rw [Path.looksDelimited, hextension, hlower]
  rfl

theorem isFile_sample : sampleStore.isFile "a.csv" = true := by
  simp only [Store.isFile, sampleStore, walk_sample]

theorem ofArgs_sample :
    Table.ofArgs sampleStore (.text "a.csv") (.bool true) (.int 1) sampleSource.settings =
      .ok sampleTable := by
  have hpath : Arg.pathText Source.role (.text "a.csv") = .ok "a.csv" := rfl
  have hdelimited : Source.isDelimited "a.csv" sampleSource.settings = .ok true := by
    rw [Source.isDelimited, looksDelimited_sample]
    rfl
  have hsource : Source.ofArgs sampleStore (.text "a.csv") (.bool true) sampleSource.settings =
      .ok sampleSource := by
    simp only [Source.ofArgs, hpath, ok_bind, hdelimited, isFile_sample]
    rfl
  have hcolumns : sampleSource.columns sampleStore = .ok [.text "k", .text "v"] := by
    rw [Source.columns, allRows_sample]
    cbv
  simp only [Table.ofArgs, hsource, ok_bind, hcolumns]
  cbv

theorem sample_ten : sampleSource.sample sampleStore 10 =
    .ok [[.text "a", .text "1"], [.text "b", .text "2"]] := by
  rw [Source.sample, rows_sample]
  rfl

theorem dryRun_of_sample {store : Store} {call : GuardedCall} {plan : Except Fault Plan} {p : Plan}
    {rows : List Row} (hplan : plan = .ok p) (hsample : p.sample store 10 = ⟨rows, none⟩) :
    dryRun store call plan = .ok () := by
  have htake : ((⟨rows, none⟩ : Feed Row).take 10).toExcept = .ok (rows.take 10) := by
    unfold Feed.take
    split
    · rfl
    · rw [List.take_of_length_le (by simp_all; omega)]
      rfl
  have hpreview : p.preview store {} = .ok ((rows.take 10).map (Record.ofRow p.names)) := by
    simp only [Plan.preview, hsample, htake]
    rfl
  simp only [dryRun, hplan, Except.bind, hpreview]

theorem dryRun_sample {call : GuardedCall} {plan : Except Fault Plan} {p : Plan}
    {transform : RowTransform} {slots : List ℕ} {rows : List Row} (hplan : plan = .ok p)
    (hwork : p.work = .rows sampleSource transform slots)
    (hrows : Feed.flatMapM (Plan.rowStep transform slots)
      ⟨[[.text "a", .text "1"], [.text "b", .text "2"]], none⟩ = ⟨rows, none⟩) :
    dryRun sampleStore call plan = .ok () := by
  have hsample : p.sample sampleStore 10 = ⟨rows, none⟩ := by
    simp only [Plan.sample, hwork, sample_ten, hrows]
  exact dryRun_of_sample hplan hsample

/-- Puts a mark behind a value. -/
def marked : Func := .unary "marked" fun v => .ok (.tuple [v, .text "!"])

def notA : Func := .unary "not_a" fun v => .ok (.bool !(Datum.equal v (.text "a")))

/-- The sample with a third column, in which the second one is marked. -/
def derivedTable : Table :=
  { sampleTable with
    catalog := {
      slots := sampleTable.catalog.slots ++ [{ name := .text "w", type := .raw, source := false }]
      order := [0, 1, 2]
      sourceWidth := 2
      operations := [{ func := marked, inputs := [1], output := 2 }] } }

def filteredTable : Table :=
  { derivedTable with rules := { filters := [{ columns := [0], predicate := notA, position := 1 }] } }

def markedTable : Table :=
  { filteredTable with
    catalog := { filteredTable.catalog with
      operations := filteredTable.catalog.operations ++
        [{ func := marked, inputs := [2], output := 2 }] } }

/-- Edits of the sample, the third of which fails. -/
def sampleHistory : List (Store × Edit) := [
  (sampleStore, .operate (.func marked) (.text "v") (.text "w")),
  (sampleStore, .filter (.text "k") (.func notA)),
  (sampleStore, .delete (.text "gone")),
  (sampleStore, .operate (.func marked) (.text "w") .null)]

theorem after_sample : sampleTable.after sampleHistory = markedTable ∧
    sampleTable.declarations sampleHistory =
      [.operation marked [1] 2, .filter [0] notA, .operation marked [2] 2] := by
  have hderived : sampleTable.edit sampleStore
      (.operate (.func marked) (.text "v") (.text "w")) = (.ok (), derivedTable) :=
    Table.edit_of_steps rfl (dryRun_sample rfl rfl rfl)
  have hfiltered : derivedTable.edit sampleStore (.filter (.text "k") (.func notA)) =
      (.ok (), filteredTable) :=
    Table.edit_of_steps rfl (dryRun_sample rfl rfl rfl)
  have hkept : (filteredTable.edit sampleStore (.delete (.text "gone"))).2 = filteredTable := rfl
  have hmarked : filteredTable.edit sampleStore (.operate (.func marked) (.text "w") .null) =
      (.ok (), markedTable) :=
    Table.edit_of_steps rfl (dryRun_sample rfl rfl rfl)
  simp only [sampleHistory, Table.after, Table.declarations, Table.declaredBy, hderived, hfiltered,
    hkept, hmarked]
  exact ⟨trivial, rfl⟩

theorem run_eq_replay_sample :
    let made := sampleTable.after sampleHistory
    let transform := RowTransform.ofTable made.catalog made.rules true
    transform.run [.text "a", .text "1"] = .ok none ∧
      transform.run [.text "b", .text "2", .text "cut"] =
        .ok (some [.text "b", .text "2", .tuple [.tuple [.text "2", .text "!"], .text "!"]]) := by
  have hreplay := (Table.run_eq_replay ofArgs_sample sampleHistory true).1
  rw [after_sample.1, after_sample.2] at hreplay
  intro made transform
  have hmade : made = markedTable := after_sample.1
  simp only [transform, hmade, hreplay]
  exact ⟨rfl, rfl⟩

end TablePipeline
