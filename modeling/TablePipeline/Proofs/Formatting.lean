import Mathlib
import TablePipeline.Proofs.Editing
import TablePipeline.Proofs.RowAccounting
import TablePipeline.Proofs.WrittenMarks

/-!
Formatters come last and do not see each other. Each reads the slot that it writes, and no slot has
two of them; so a row can be formatted exactly if every formatter takes the value that the row has
without formatters, and the first one that does not gives the failure.
-/
namespace TablePipeline

/-- What a computation fails with, if it does. -/
def Fault.of? {α : Type} : Except Fault α → Option Fault
  | .ok _ => none
  | .error fault => some fault

theorem Fault.of?_mapM {α β : Type} (f : α → Except Fault β) (as : List α) :
    of? (as.mapM f) = as.findSome? fun a => of? (f a) := by
  induction as with
  | nil => rfl
  | cons a as ih =>
    rw [List.mapM_cons, List.findSome?_cons, ← ih]
    cases f a with
    | error fault => rfl
    | ok b => cases as.mapM f <;> rfl

namespace RowTransform

/-! ### Rows on which all steps have run -/

theorem run_eq_kept (p : RowTransform) (values : Row) :
    p.run values = (p.kept values).map (Option.map (Datum.forgetItems false)) := by
  unfold run
  cases p.kept values <;> rfl

/-- Steps run one part after the other. -/
theorem runSteps_append (number : ℕ) (steps more : List RowStep) (row : Row) :
    runSteps number (steps ++ more) row = (do
      match ← runSteps number steps row with
      | some row => runSteps (number + steps.length) more row
      | none => .ok none) := by
  induction steps generalizing number row with
  | nil => rfl
  | cons step steps ih =>
    simp only [List.cons_append, runSteps]
    cases step.apply number row with
    | error fault => rfl
    | ok row? =>
      cases row? with
      | none => rfl
      | some row =>
        simp only [ok_bind]
        rw [ih, List.length_cons, Nat.add_assoc, Nat.add_comm 1]

/-- The transform with formatters runs them after all steps of the one without. -/
theorem kept_formatted (c : Catalog) (rules : RowRules) (values : Row) :
    (ofTable c rules true).kept values = (do
      let number := c.parsers.length + (ofTable c rules false).steps.length
      match ← (ofTable c rules false).kept values with
      | some row => runSteps number (c.formatOperations.map .operation) row
      | none => .ok none) := by
  have hsteps : (ofTable c rules true).steps =
      (ofTable c rules false).steps ++ c.formatOperations.map .operation := by
    simp [ofTable]
  have hparsers : ∀ formatted, (ofTable c rules formatted).parsers = c.parsers := fun _ => rfl
  have hwidth : ∀ formatted, (ofTable c rules formatted).width = c.width := fun _ => rfl
  unfold kept
  simp only [hsteps, hparsers, hwidth, runSteps_append]
  cases parseFields 0 c.parsers values <;> rfl

end RowTransform

namespace Catalog

/-! ### Formatters -/

/-- The failure of the first of some formatters that does not take what a row has in its slot. -/
def faultAmong? (entries : List (ℕ × Func)) (row : Row) : Option Fault :=
  entries.findSome? fun (slot, f) => Fault.of? (f.apply [row.getD slot .null])

/-- A row in which some formatters have replaced the values of their slots. -/
structure FormattedBy (entries : List (ℕ × Func)) (row shown : Row) : Prop where
  length : shown.length = row.length
  formatted : ∀ slot f, entries.lookup slot = some f → ∃ v number,
    f.apply [row.getD slot .null] = .ok v ∧ shown.getD slot .null = v.claim number
  others : ∀ slot, entries.lookup slot = none → shown.getD slot .null = row.getD slot .null

/-- The step of a formatter. -/
def formatStep (entry : ℕ × Func) : RowStep :=
  .operation { func := entry.2, inputs := [entry.1], output := entry.1, formats := true }

theorem map_formatOperations (c : Catalog) :
    c.formatOperations.map RowStep.operation = c.formatters.map formatStep := by
  rw [formatOperations, List.map_map]
  rfl

theorem apply_formatStep {slot : ℕ} {row : Row} (h : slot < row.length) (number : ℕ) (f : Func) :
    (formatStep (slot, f)).apply number row =
      (f.apply [row.getD slot .null]).map fun v => some (row.set slot (v.claim number)) := by
  have hcells : row.cells [slot] = .ok [row.getD slot .null] :=
    Row.cells_eq_ok fun there hthere => by rwa [List.mem_singleton.1 hthere]
  simp only [RowStep.apply, formatStep, hcells, ok_bind, Row.put, if_pos h]
  cases f.apply [row.getD slot .null] <;> rfl

theorem getD_set_of_ne {row : Row} {slot there : ℕ} (h : there ≠ slot) (v : Value) :
    (row.set slot v).getD there .null = row.getD there .null := by
  rw [List.getD_eq_getElem?_getD, List.getD_eq_getElem?_getD, List.getElem?_set_ne (Ne.symm h)]

theorem lookup_eq_none_of_notMem {entries : List (ℕ × Func)} {slot : ℕ}
    (h : slot ∉ entries.map (·.1)) : entries.lookup slot = none := by
  rw [List.lookup_eq_none_iff]
  intro entry hentry
  simpa using fun hsame : slot = entry.1 => h (hsame ▸ List.mem_map_of_mem hentry)

/-- Formatters do not see a slot that none of them formats. -/
theorem faultAmong?_set {entries : List (ℕ × Func)} {slot : ℕ} (h : slot ∉ entries.map (·.1))
    {row : Row} (v : Value) : faultAmong? entries (row.set slot v) = faultAmong? entries row := by
  induction entries with
  | nil => rfl
  | cons entry entries ih =>
    rw [List.map_cons, List.mem_cons, not_or] at h
    have hrest := ih h.2
    have hcell : (row.set slot v).getD entry.1 .null = row.getD entry.1 .null :=
      getD_set_of_ne (Ne.symm h.1) v
    simp only [faultAmong?] at hrest
    simp only [faultAmong?, List.findSome?_cons, hcell, hrest]

/-- One formatter before others of other slots. -/
theorem FormattedBy.cons {entries : List (ℕ × Func)} {slot number : ℕ} {f : Func}
    {row shown : Row} {v : Value} (hnew : slot ∉ entries.map (·.1)) (hslot : slot < row.length)
    (hf : f.apply [row.getD slot .null] = .ok v)
    (h : FormattedBy entries (row.set slot (v.claim number)) shown) :
    FormattedBy ((slot, f) :: entries) row shown := by
  refine ⟨by simpa using h.length, fun there g hg => ?_, fun there hg => ?_⟩
  · by_cases hthere : there = slot
    · subst hthere
      obtain rfl : f = g := by simpa using hg
      refine ⟨v, number, hf, ?_⟩
      rw [h.others _ (lookup_eq_none_of_notMem hnew), List.getD_eq_getElem?_getD,
        List.getElem?_set_self hslot, Option.getD_some]
    · rw [List.lookup_cons, beq_false_of_ne hthere] at hg
      rw [← getD_set_of_ne hthere (v.claim number)]
      exact h.formatted there g hg
  · have hthere : there ≠ slot := by
      rintro rfl
      simp at hg
    rw [List.lookup_cons, beq_false_of_ne hthere] at hg
    rw [h.others there hg, getD_set_of_ne hthere]

/-- Formatters of different slots run if each of them takes what the row has in its slot, and then
each has replaced that alone; else the first one that does not gives the failure. By induction on the
formatters: none of the later ones reads the slot that has just been written. -/
theorem runSteps_formatters {entries : List (ℕ × Func)} {row : Row}
    (hslots : (entries.map (·.1)).Nodup) (hwidth : ∀ slot ∈ entries.map (·.1), slot < row.length)
    (number : ℕ) :
    match faultAmong? entries row with
    | some fault => RowTransform.runSteps number (entries.map formatStep) row = .error fault
    | none => ∃ shown, RowTransform.runSteps number (entries.map formatStep) row =
        .ok (some shown) ∧ FormattedBy entries row shown := by
  induction entries generalizing number row with
  | nil => exact ⟨row, rfl, rfl, fun slot f h => by simp at h, fun _ _ => rfl⟩
  | cons entry entries ih =>
    obtain ⟨slot, f⟩ := entry
    obtain ⟨hnew, hslots⟩ := List.nodup_cons.1 hslots
    have hslot : slot < row.length := hwidth slot List.mem_cons_self
    simp only [List.map_cons, RowTransform.runSteps, apply_formatStep hslot, faultAmong?,
      List.findSome?_cons]
    cases hf : f.apply [row.getD slot .null] with
    | error fault => rfl
    | ok v =>
      have hlater : ∀ there ∈ entries.map (·.1), there < (row.set slot (v.claim number)).length :=
        fun there hthere => by simpa using hwidth there (List.mem_cons_of_mem slot hthere)
      have hrest := ih hslots hlater (number + 1)
      rw [faultAmong?_set hnew] at hrest
      simp only [Fault.of?, Except.map, ok_bind]
      change match faultAmong? entries row with | some _ => _ | none => _
      cases hfault : faultAmong? entries row with
      | some fault => simpa only [hfault] using hrest
      | none =>
        simp only [hfault] at hrest
        obtain ⟨shown, hrun, hshown⟩ := hrest
        exact ⟨shown, hrun, hshown.cons hnew hslot hf⟩

/-- The failure of the first formatter that does not take what a row has in its slot, in the order in
which the formatters were set. -/
def formatFault? (c : Catalog) (row : Row) : Option Fault := faultAmong? c.formatters row

/-! ### Formatting column by column -/

/-- Some columns of a row, each through its own formatter, if it has one. -/
def formattedAt (c : Catalog) (slots : List ℕ) (row : Row) : Except Fault Row :=
  slots.mapM fun slot => JoinSide.through row (slot, c.formatter? slot)

theorem through_getD {row : Row} {slot : ℕ} (hslot : slot < row.length) (f? : Option Func) :
    JoinSide.through row (slot, f?) =
      match f? with
      | some f => f.apply [row.getD slot .null]
      | none => .ok (row.getD slot .null) := by
  have hcell : row.cell slot = .ok (row.getD slot .null) := by
    rw [Row.cell_eq_ok_iff]
    simp [hslot]
  rw [JoinSide.through, hcell]
  cases f? <;> rfl

/-- In a row that has been formatted each column stands as it comes through its own formatter. -/
theorem formattedAt_of_formattedBy {c : Catalog} {slots : List ℕ} {row shown : Row}
    (h : FormattedBy c.formatters row shown) (all : Bool)
    (hslots : ∀ slot ∈ slots, slot < row.length) :
    (c.formattedAt slots row).map (Datum.forgetItems all) =
      .ok (Datum.forgetItems all (slots.map fun slot => shown.getD slot .null)) := by
  have hforget : (Datum.forgetItems all : Row → Row) = List.map (Datum.forget all) :=
    funext (Datum.forgetItems_eq_map all)
  rw [hforget, formattedAt, ← mapM_map_results, mapM_eq_ok_iff, List.map_map, List.map_map]
  refine List.map_congr_left fun slot hslot => ?_
  rw [through_getD (hslots slot hslot), formatter?]
  cases hlookup : c.formatters.lookup slot with
  | none => exact congrArg _ (congrArg _ (h.others slot hlookup).symm)
  | some f =>
    obtain ⟨v, number, hv, hshown⟩ := h.formatted slot f hlookup
    simp only [hv, hshown, Function.comp, Datum.forget_claim]
    rfl

end Catalog

namespace RowTransform

variable {c : Catalog} {rules : RowRules} {values row : Row}

/-- A row that is kept without formatters is formatted, or fails with the first of them. -/
theorem kept_of_formats (hformats : c.Formats)
    (h : (ofTable c rules false).kept values = .ok (some row)) :
    match c.formatFault? row with
    | some fault => (ofTable c rules true).kept values = .error fault
    | none => ∃ shown, (ofTable c rules true).kept values = .ok (some shown) ∧
        Catalog.FormattedBy c.formatters row shown := by
  have hlength : c.width ≤ row.length := width_le_of_kept h
  have hslots : ∀ slot ∈ c.formatters.map (·.1), slot < row.length :=
    fun slot hslot => (hformats.2 slot hslot).trans_le hlength
  have hsteps := Catalog.runSteps_formatters hformats.1 hslots
    (c.parsers.length + (ofTable c rules false).steps.length)
  rw [kept_formatted, h, Catalog.map_formatOperations]
  exact hsteps

end RowTransform

namespace Table

/-- What formatting does with a row: the failure of the first formatter that does not take what the
row has without formatters, for a row that is kept. -/
def formatFault? (t : Table) (values : Row) : Option Fault :=
  match (RowTransform.ofTable t.catalog t.rules false).kept values with
  | .ok (some row) => t.catalog.formatFault? row
  | _ => none

/-- Where a row does not fail without formatters, it fails as they do. -/
theorem of?_run_formatted {t : Table} (hformats : t.catalog.Formats) {values : Row}
    {kept? : Option Row}
    (h : (RowTransform.ofTable t.catalog t.rules false).run values = .ok kept?) :
    Fault.of? ((RowTransform.ofTable t.catalog t.rules true).run values) = t.formatFault? values := by
  rw [RowTransform.run_eq_kept] at h
  unfold formatFault?
  cases hkept : (RowTransform.ofTable t.catalog t.rules false).kept values with
  | error fault => simp [hkept, Except.map] at h
  | ok row? =>
    cases row? with
    | none => simp [RowTransform.run_eq_kept, RowTransform.kept_formatted, hkept, Except.map,
        Fault.of?]
    | some row =>
      have hshown := RowTransform.kept_of_formats hformats hkept
      simp only
      rw [RowTransform.run_eq_kept]
      cases hfault : t.catalog.formatFault? row with
      | some fault =>
        simp only [hfault] at hshown
        rw [hshown]
        rfl
      | none =>
        simp only [hfault] at hshown
        obtain ⟨shown, hshown, -⟩ := hshown
        rw [hshown]
        rfl

end Table

end TablePipeline
