import Mathlib
import TablePipeline.Proofs.Scheduling

/-!
A stage in batches and a single pass. The batches of a stage are the consecutive rows that a cursor
hands out, and the stage takes each of them once. So a stage that reports its failures comes to what
one pass over the rows comes to, batch by batch in the order in which batches are taken; a stage that
raises stops at the first of these failures. With order kept neither the size of the batches nor the
workers nor the order in which batches are finished makes a difference.
-/
namespace TablePipeline

/-! ### Batches are consecutive rows -/

/-- Every piece is `size` items long, as far as there are items. -/
theorem Feed.pieces_getElem? {α : Type} {size : ℕ} (hs : 0 < size) (items : List α) (i : ℕ) :
    (pieces size items)[i]? =
      if i * size < items.length then some ((items.drop (i * size)).take size) else none := by
  induction items using pieces.induct size generalizing i with
  | case1 items h =>
    obtain rfl : items = [] := by simpa [hs.ne'] using h
    simp [pieces]
  | case2 items h ih =>
    rw [pieces, if_neg h]
    have hpos : 0 < items.length := by
      refine List.length_pos_iff.2 fun hnil => ?_
      simp [hnil] at h
    cases i with
    | zero => simp [hpos]
    | succ i =>
      have hnext : (i + 1) * size = size + i * size := by rw [Nat.succ_mul, Nat.add_comm]
      simp only [List.getElem?_cons_succ, ih, List.length_drop, List.drop_drop, hnext]
      congr 1
      exact propext (by omega)

theorem Feed.ne_nil_of_mem_batches {α : Type} {size : ℕ} (hs : 0 < size) {feed : Feed α}
    (h : feed.fault = none) : ∀ batch ∈ (feed.batches size).items, batch ≠ [] := by
  intro batch hb
  simp only [batches, h] at hb
  obtain ⟨i, hi⟩ := List.mem_iff_getElem?.1 hb
  rw [pieces_getElem? hs] at hi
  split_ifs at hi with hlt
  obtain rfl := Option.some.inj hi
  rw [← List.length_pos_iff, List.length_take, List.length_drop]
  omega

namespace Cursor

/-- The cursor after a number of batches. -/
def after (c : Cursor) (size batches : ℕ) : Cursor := (fun c => (nextBatch c size).2)^[batches] c

/-- The batch that a cursor hands out after a number of others. -/
def batch (c : Cursor) (size batches : ℕ) : Except Fault (List NumberedRow) :=
  ((c.after size batches).nextBatch size).1

theorem next_of_left_cons {c : Cursor} {row : NumberedRow} {rest : List NumberedRow}
    (h : c.left = ⟨row :: rest, none⟩) :
    ∃ c', c.next = (.ok (some row), c') ∧ c'.left = ⟨rest, none⟩ :=
  ⟨_, by simp only [next, h]; rfl, rfl⟩

theorem next_of_left_nil {c : Cursor} (h : c.left = ⟨[], none⟩) :
    ∃ c', c.next = (.ok none, c') ∧ c'.left = ⟨[], none⟩ :=
  ⟨_, by simp only [next, h]; rfl, rfl⟩

theorem nextBatch_of_left {c : Cursor} {items : List NumberedRow} (h : c.left = ⟨items, none⟩)
    (size : ℕ) :
    ∃ c', c.nextBatch size = (.ok (items.take size), c') ∧ c'.left = ⟨items.drop size, none⟩ := by
  induction size generalizing c items with
  | zero => exact ⟨c, rfl, h⟩
  | succ size ih =>
    cases items with
    | nil =>
      obtain ⟨c', hnext, hleft⟩ := next_of_left_nil h
      exact ⟨c', by simp [nextBatch, hnext], hleft⟩
    | cons row rest =>
      obtain ⟨c', hnext, hrest⟩ := next_of_left_cons h
      obtain ⟨c'', hbatch, hleft⟩ := ih hrest
      exact ⟨c'', by simp [nextBatch, hnext, hbatch], hleft⟩

theorem left_after {c : Cursor} {items : List NumberedRow} (h : c.left = ⟨items, none⟩)
    (size batches : ℕ) : (c.after size batches).left = ⟨items.drop (batches * size), none⟩ := by
  induction batches with
  | zero => simpa [after] using h
  | succ batches ih =>
    obtain ⟨c', hbatch, hleft⟩ := nextBatch_of_left ih size
    have hnext : c.after size (batches + 1) = c' := by
      rw [after, Function.iterate_succ_apply', ← after, hbatch]
    rw [hnext, hleft, List.drop_drop, Nat.succ_mul]

/-- A cursor hands out the rows of a feed batch by batch, and nothing after the last batch. -/
theorem batch_eq {rows : Feed Row} (hrows : rows.fault = none) {size : ℕ} (hs : 0 < size) (i : ℕ) :
    batch { feed := rows } size i = .ok ((rows.numbered.batches size).items[i]?.getD []) := by
  have hleft : left { feed := rows } = ⟨rows.numbered.items, none⟩ := by
    simp [left, Feed.numbered, hrows]
  have hbatches : (rows.numbered.batches size).items = Feed.pieces size rows.numbered.items := by
    simp [Feed.batches, Feed.numbered, hrows]
  obtain ⟨c', hbatch, -⟩ := nextBatch_of_left (left_after hleft size i) size
  rw [batch, hbatch, hbatches, Feed.pieces_getElem? hs]
  by_cases hi : i * size < rows.numbered.items.length
  · simp [hi]
  · simp [hi, List.drop_eq_nil_of_le (Nat.le_of_not_lt hi)]

end Cursor

/-! ### Stages that report and stages that raise -/

/-- The failure that ends a run where failures are not to be reported. -/
def RowFailure.raised (failure : RowFailure) : Fault :=
  .execution failure.stage failure.place failure.fault

/-- A stage that raises its first failure, beside the same stage where all failures are reported. -/
structure Outcome.StopsAtFirst {α : Type} (o reporting : Outcome α) : Prop where
  failures : o.failures = []
  fault : o.fault = reporting.failures.head?.map RowFailure.raised
  items : o.items <+: reporting.items
  whole : reporting.failures = [] → o.items = reporting.items

/-- A stage that ends well and lists what fails, beside the same stage raising its failures. -/
structure Outcome.Contained {α : Type} (raising reporting : Outcome α) : Prop where
  ended : reporting.fault = none
  stops : raising.StopsAtFirst reporting

theorem Outcome.ofResults_cons {α : Type} (o : Outcome α) (results : Feed (Outcome α)) :
    ofResults (results.cons o) =
      { items := o.items ++ (ofResults results).items
        fault := (ofResults results).fault
        failures := o.failures ++ (ofResults results).failures } := rfl

namespace Backend

variable {α : Type} {b : Backend} {stage : Stage} {step : Row → Except Fault (List α)}

/-- What one pass over rows hands out and reports. -/
def singlePass (stage : Stage) (step : Row → Except Fault (List α)) (rows : List NumberedRow) :
    Outcome α where
  items := rows.flatMap fun row => made (step row.values)
  failures := rows.filterMap (rowFailure? stage step)

theorem singlePass_append (stage : Stage) (step : Row → Except Fault (List α))
    (rows more : List NumberedRow) :
    singlePass stage step (rows ++ more) =
      { items := (singlePass stage step rows).items ++ (singlePass stage step more).items
        failures := (singlePass stage step rows).failures ++
          (singlePass stage step more).failures } := by
  simp [singlePass]

theorem workOn_reporting (hb : b.raiseOnError = false) (batch : List NumberedRow) :
    b.workOn stage step batch = .ok (singlePass stage step batch) := by
  induction batch with
  | nil => rfl
  | cons row rest ih =>
    cases hstep : step row.values with
    | ok items => simp [workOn, hstep, ih, singlePass, rowFailure?]
    | error fault =>
      simp [workOn, hstep, ih, singlePass, rowFailure?, Backend.failure, hb, Outcome.report]

theorem workOn_raising (hb : b.raiseOnError = true) (stage : Stage)
    (step : Row → Except Fault (List α)) (batch : List NumberedRow) :
    b.workOn stage step batch =
      match (singlePass stage step batch).failures with
      | [] => .ok (singlePass stage step batch)
      | failure :: _ => .error failure.raised := by
  induction batch with
  | nil => rfl
  | cons row rest ih =>
    cases hstep : step row.values with
    | ok items =>
      rw [workOn, hstep]
      simp only [ih]
      cases hrest : rest.filterMap (rowFailure? stage step) <;>
        simp [singlePass, hstep, rowFailure?, hrest]
    | error fault =>
      simp [workOn, hstep, singlePass, rowFailure?, Backend.failure, hb, RowFailure.raised]

/-- Batches that report come to what one pass over their rows comes to. -/
theorem ofResults_reporting (hb : b.raiseOnError = false) (stage : Stage)
    (step : Row → Except Fault (List α)) (batches : List (List NumberedRow)) :
    .ofResults (Feed.traverse (Scheduling.single (b.workOn stage step)) batches none) =
      singlePass stage step batches.flatten := by
  induction batches with
  | nil => rfl
  | cons batch rest ih =>
    rw [Scheduling.traverse_single_ok (workOn_reporting hb batch), Outcome.ofResults_cons, ih]
    simp [singlePass]

/-- Batches that raise stop at the first failure of one pass over their rows: by induction on the
batches, those before the failure having come to the same in both. -/
theorem ofResults_raising (hb : b.raiseOnError = true) (stage : Stage)
    (step : Row → Except Fault (List α)) (batches : List (List NumberedRow)) :
    (Outcome.ofResults
        (Feed.traverse (Scheduling.single (b.workOn stage step)) batches none)).StopsAtFirst
      (singlePass stage step batches.flatten) := by
  induction batches with
  | nil => exact ⟨rfl, rfl, List.prefix_rfl, fun _ => rfl⟩
  | cons batch rest ih =>
    have happend := singlePass_append stage step batch rest.flatten
    have hwork := workOn_raising hb stage step batch
    rw [List.flatten_cons, happend]
    cases hbatch : (singlePass stage step batch).failures with
    | nil =>
      rw [hbatch] at hwork
      rw [Scheduling.traverse_single_ok hwork, Outcome.ofResults_cons, hbatch]
      exact ⟨ih.failures, ih.fault, List.prefix_append_right_inj _ |>.2 ih.items,
        fun hnone => by rw [ih.whole hnone]⟩
    | cons failure more =>
      rw [hbatch] at hwork
      rw [Scheduling.traverse_single_error hwork]
      exact ⟨rfl, rfl, List.nil_prefix, nofun⟩

/-- The same backend, reporting failures. -/
def reporting (b : Backend) : Backend := { b with raiseOnError := false }

/-- The same backend, raising the first failure. -/
def raising (b : Backend) : Backend := { b with raiseOnError := true }

theorem eq_reporting {b : Backend} (h : b.raiseOnError = false) : b = b.reporting := by
  cases b
  simp_all [reporting]

theorem eq_raising {b : Backend} (h : b.raiseOnError = true) : b = b.raising := by
  cases b
  simp_all [raising]

/-- Each batch is taken once, in the same order whether failures are reported or raised. A stage that
reports comes to one pass over the rows of the batches in that order, and one that raises stops at the
first failure of this pass. -/
theorem workThrough_contained (b : Backend) (hworkers : 0 < b.workers) (hw : 0 < b.window) (size : ℕ)
    {rows : Feed Row} (hrows : rows.fault = none) (stage : Stage)
    (step : Row → Except Fault (List α)) :
    ∃ order : List (List NumberedRow),
      b.Turns (.start (rows.numbered.batches size).items) (.done order) ∧
        (∀ {β : Type} (work : List NumberedRow → Except Fault β),
          b.run work (rows.numbered.batches size) =
            Feed.traverse (Scheduling.single work) order none) ∧
        b.reporting.workThrough stage size step rows = singlePass stage step order.flatten ∧
        (b.raising.workThrough stage size step rows).Contained
          (b.reporting.workThrough stage size step rows) := by
  have hfault : (rows.numbered.batches size).fault = none := by
    rw [Feed.batches_fault]
    exact hrows
  obtain ⟨order, hrun, hcourse⟩ :=
    Scheduling.run_turns hworkers hw (rows.numbered.batches size)
  rw [hfault] at hrun
  have hreports : b.reporting.workThrough stage size step rows =
      singlePass stage step order.flatten := by
    rw [workThrough, ← ofResults_reporting (b := b.reporting) rfl stage step]
    exact congrArg _ (hrun _)
  refine ⟨order, hcourse hfault, hrun, hreports, ?_, ?_⟩
  · rw [hreports]
    rfl
  · have hraises := ofResults_raising (b := b.raising) rfl stage step order
    rw [hreports, workThrough]
    rwa [← hrun] at hraises

end Backend

/-! ### Three rows, the last two of which fail -/

def threeRows : Feed Row := ⟨[[.text "a"], [.text "b"], [.text "c"]], none⟩

def onlyFirst (row : Row) : Except Fault (List Row) :=
  if row.any fun v => v.isMatch (.text "a") then .ok [row] else .error (.eval .badCount)

/-- Two workers that raise the first failure. -/
def twoWorkers : Backend where
  workers := 2
  raiseOnError := true

end TablePipeline
