import Mathlib
import TablePipeline.Proofs.Turns
import TablePipeline.Run.Backend

/-!
Batches are worked on each exactly once: a run that ends well has handed out the result of every
batch, in the order of the batches if order is kept. So what a stage makes of the rows of a source is
what one pass over the rows makes of them, up to their order.
-/
namespace TablePipeline

namespace Scheduling

variable {α β : Type}

/-- Results that are handed out one by one until none is left are those of all the work. -/
theorem traverse_single {work : α → Except Fault β} {batches : List α} {fault : Option Fault}
    (h : (Feed.traverse (single work) batches fault).fault = none) :
    (Feed.traverse (single work) batches fault).items.map .ok = batches.map work := by
  induction batches with
  | nil => rfl
  | cons batch rest ih =>
    cases hwork : work batch with
    | error stop => simp [traverse_single_error hwork, Feed.failed] at h
    | ok result =>
      rw [traverse_single_ok hwork] at h ⊢
      simpa [Feed.cons, hwork] using ih h

/-- A run that ends well has read all batches and worked on each of them once. -/
theorem run_results {s : Scheduling} {work : α → Except Fault β} {batches : Feed α}
    (hw : 0 < s.window) (h : (s.run work batches).fault = none) :
    batches.fault = none ∧
      ((s.run work batches).items.map .ok).Perm (batches.items.map work) ∧
      (s.InOrder → (s.run work batches).items.map .ok = batches.items.map work) := by
  have hworkers : 0 < s.workers := by
    refine Nat.pos_of_ne_zero fun h0 => ?_
    simp [run, h0, Feed.failed] at h
  obtain ⟨order, hrun, hcourse⟩ := run_turns hworkers hw batches
  rw [hrun work] at h ⊢
  obtain ⟨hfault, -⟩ := Feed.ok_of_traverse h
  obtain ⟨hperm, hsame⟩ := (hcourse hfault).order_perm
  rw [traverse_single h]
  exact ⟨hfault, hperm.map work, fun horder => by rw [hsame horder]⟩

end Scheduling

theorem Feed.numbered_values (feed : Feed Row) :
    feed.numbered.items.map (fun row => row.values) = feed.items := by
  rw [Feed.numbered, List.map_map]
  exact List.zipIdx_map_fst 0 feed.items

namespace Backend

variable {α β : Type}

/-- What is reported of a row whose step fails. -/
def rowFailure? (stage : Stage) (step : Row → Except Fault (List α)) (row : NumberedRow) :
    Option RowFailure :=
  match step row.values with
  | .ok _ => none
  | .error fault => some { stage, place := .row row.id, fault }

theorem rowFailure?_eq_none_iff {stage : Stage} {step : Row → Except Fault (List α)}
    {row : NumberedRow} :
    rowFailure? stage step row = none ↔ ∃ items, step row.values = .ok items := by
  unfold rowFailure?
  cases step row.values <;> simp

/-- A batch hands out what its rows give and reports the rows that fail. -/
theorem workOn_ok {b : Backend} {stage : Stage} {step : Row → Except Fault (List α)}
    {batch : List NumberedRow} {o : Outcome α} (h : b.workOn stage step batch = .ok o) :
    o.items = batch.flatMap (fun row => made (step row.values)) ∧
      o.failures = batch.filterMap (rowFailure? stage step) := by
  induction batch generalizing o with
  | nil =>
    obtain rfl : Outcome.empty = o := Except.ok.inj h
    exact ⟨rfl, rfl⟩
  | cons row rest ih =>
    unfold workOn at h
    cases hstep : step row.values with
    | ok items =>
      simp only [hstep] at h
      obtain ⟨more, hmore, ho⟩ := bind_eq_ok.1 h
      obtain ⟨hi, hf⟩ := ih hmore
      obtain rfl := Except.ok.inj ho
      simp [hstep, rowFailure?, hi, hf]
    | error fault =>
      simp only [hstep] at h
      obtain ⟨failure, hfailure, h⟩ := bind_eq_ok.1 h
      obtain ⟨more, hmore, ho⟩ := bind_eq_ok.1 h
      obtain ⟨hi, hf⟩ := ih hmore
      obtain rfl := Except.ok.inj ho
      unfold Backend.failure at hfailure
      split_ifs at hfailure
      obtain rfl := Except.ok.inj hfailure
      simp [Outcome.report, hstep, rowFailure?, hi, hf]

/-- What a batch has come to, or its failure alone. -/
def batchOutcome : Except Fault (Outcome α) → Outcome α
  | .ok o => o
  | .error fault => .failed fault

/-- A stage that ends well has read the whole source, handed out what its rows give and reported the
rows that fail; with order kept, in the order of the rows. -/
theorem workThrough_results {b : Backend} {stage : Stage} {size : ℕ}
    {step : Row → Except Fault (List α)} {rows : Feed Row} (hw : 0 < b.window) (hs : 0 < size)
    (h : (b.workThrough stage size step rows).fault = none) :
    rows.fault = none ∧
      (b.workThrough stage size step rows).items.Perm
        (rows.items.flatMap fun row => made (step row)) ∧
      (b.workThrough stage size step rows).failures.Perm
        (rows.numbered.items.filterMap (rowFailure? stage step)) ∧
      (b.InOrder →
        (b.workThrough stage size step rows).items =
            (rows.items.flatMap fun row => made (step row)) ∧
          (b.workThrough stage size step rows).failures =
            rows.numbered.items.filterMap (rowFailure? stage step)) := by
  have hrun : (b.run (b.workOn stage step) (rows.numbered.batches size)).fault = none := h
  obtain ⟨hfault, hperm, hsame⟩ := Scheduling.run_results hw hrun
  rw [Feed.batches_fault] at hfault
  have hnumbered : (rows.numbered.batches size).items.flatten = rows.numbered.items :=
    Feed.batches_flatten hs hfault
  have hdone : ∀ batch ∈ (rows.numbered.batches size).items,
      (batchOutcome (b.workOn stage step batch)).items =
          batch.flatMap (fun row => made (step row.values)) ∧
        (batchOutcome (b.workOn stage step batch)).failures =
          batch.filterMap (rowFailure? stage step) := by
    intro batch hb
    obtain ⟨o, _, ho⟩ := List.mem_map.1 (hperm.mem_iff.2 (List.mem_map_of_mem hb))
    rw [← ho]
    exact workOn_ok ho.symm
  have hitems : ((rows.numbered.batches size).items.map (b.workOn stage step)).flatMap
      (fun x => (batchOutcome x).items) = rows.items.flatMap fun row => made (step row) := by
    have hassoc := List.flatMap_assoc (l := (rows.numbered.batches size).items) (f := id)
      (g := fun row : NumberedRow => made (step row.values))
    rw [List.flatMap_map, List.flatMap_congr fun batch hb => (hdone batch hb).1,
      ← rows.numbered_values, List.flatMap_map, ← hnumbered, ← List.flatMap_id]
    exact hassoc.symm
  have hfailures : ((rows.numbered.batches size).items.map (b.workOn stage step)).flatMap
      (fun x => (batchOutcome x).failures) =
        rows.numbered.items.filterMap (rowFailure? stage step) := by
    rw [List.flatMap_map, List.flatMap_congr fun batch hb => (hdone batch hb).2, ← hnumbered,
      List.filterMap_flatten, List.flatMap_def]
  have hsplit : ∀ results : List (Outcome α),
      (results.flatMap fun o => o.items) =
          (results.map .ok).flatMap (fun x => (batchOutcome x).items) ∧
        (results.flatMap fun o => o.failures) =
          (results.map .ok).flatMap fun x => (batchOutcome x).failures := by
    intro results
    simp [List.flatMap_map, batchOutcome]
  refine ⟨hfault, ?_, ?_, fun horder => ?_⟩
  · rw [← hitems]
    exact (List.Perm.of_eq (hsplit _).1).trans (hperm.flatMap_right _)
  · rw [← hfailures]
    exact (List.Perm.of_eq (hsplit _).2).trans (hperm.flatMap_right _)
  · rw [← hitems, ← hfailures, ← hsame horder]
    exact hsplit _

/-- A stage of which nothing failed has handed out what every row gives. -/
theorem workThrough_clean {b : Backend} {stage : Stage} {size : ℕ}
    {step : Row → Except Fault (List α)} {rows : Feed Row} (hw : 0 < b.window) (hs : 0 < size)
    (h : (b.workThrough stage size step rows).Clean) :
    (rows.flatMapM step).fault = none ∧
      (b.workThrough stage size step rows).items.Perm (rows.flatMapM step).items ∧
      (b.InOrder → (b.workThrough stage size step rows).items = (rows.flatMapM step).items) := by
  obtain ⟨hfault, hperm, hfailures, hsame⟩ := workThrough_results hw hs h.1
  have hnone : rows.numbered.items.filterMap (rowFailure? stage step) = [] := by
    rw [h.2] at hfailures
    exact hfailures.nil_eq.symm
  have hok : ∀ row ∈ rows.items, ∃ items, step row = .ok items := by
    intro row hrow
    rw [← rows.numbered_values] at hrow
    obtain ⟨numbered, hmem, rfl⟩ := List.mem_map.1 hrow
    exact rowFailure?_eq_none_iff.1 (List.filterMap_eq_nil_iff.1 hnone numbered hmem)
  rw [Feed.flatMapM, Feed.traverse_of_ok rows.fault hok]
  exact ⟨hfault, hperm, fun horder => (hsame horder).1⟩

/-- Groups or rows that all succeed hand out what they give, and nothing is reported. -/
theorem eachOf_of_ok {b : Backend} {stage : Stage} {place : Place}
    {step : α → Except Fault (List β)} {as : List α} (h : ∀ a ∈ as, ∃ items, step a = .ok items) :
    b.eachOf stage place step as = { items := as.flatMap fun a => made (step a) } := by
  induction as with
  | nil => rfl
  | cons a as ih =>
    obtain ⟨items, hitems⟩ := h a (by simp)
    simp [eachOf, hitems, ih fun a ha => h a (by simp [ha]), Outcome.append]

theorem ok_of_eachOf_clean {b : Backend} {stage : Stage} {place : Place}
    {step : α → Except Fault (List β)} {as : List α}
    (h : (b.eachOf stage place step as).Clean) : ∀ a ∈ as, ∃ items, step a = .ok items := by
  induction as with
  | nil => simp
  | cons a as ih =>
    unfold eachOf at h
    cases hstep : step a with
    | ok items =>
      simp only [hstep] at h
      obtain ⟨-, hrest, -⟩ := Outcome.append_clean h
      simpa using ⟨⟨items, hstep⟩, ih hrest⟩
    | error fault =>
      simp only [hstep] at h
      cases hfailure : b.failure stage place fault with
      | error stop => simp [hfailure, Outcome.failed, Outcome.Clean] at h
      | ok failure => simp [hfailure, Outcome.report, Outcome.Clean] at h

end Backend

end TablePipeline
