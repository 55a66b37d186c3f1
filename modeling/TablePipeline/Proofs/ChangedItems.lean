import Mathlib
import TablePipeline.Proofs.IndexColumns
import TablePipeline.Proofs.Preview

/-!
Items that are changed on their way. When a stage ends and what it reports does not depend on the
items it hands out: a stage whose steps make changed items hands out changed items, and ends and
reports as before. So a join of records with changed columns is the join with changed rows, in a
sample as in a run, whatever fails.
-/
namespace TablePipeline

/-! ### Feeds and outcomes -/

namespace Feed

variable {α β γ : Type}

theorem traverse_map {f : α → Except Fault (List β)} {f' : α → Except Fault (List γ)} {g : β → γ}
    {as : List α} (fault : Option Fault) (h : ∀ a ∈ as, f' a = (f a).map (List.map g)) :
    traverse f' as fault = (traverse f as fault).map g := by
  induction as with
  | nil => rfl
  | cons a as ih =>
    rw [traverse, traverse, h a (by simp), ih fun a ha => h a (by simp [ha])]
    cases f a with
    | error stop => rfl
    | ok bs => simp [Except.map, map]

/-- The items of a batch are items of the feed. -/
theorem mem_of_mem_batches {size : ℕ} {feed : Feed α} {batch : List α}
    (h : batch ∈ (feed.batches size).items) {a : α} (ha : a ∈ batch) : a ∈ feed.items := by
  have hpieces : batch ∈ pieces size feed.items := by
    unfold batches at h
    cases hfault : feed.fault with
    | none => simpa [hfault] using h
    | some fault => exact List.mem_of_mem_filter (by simpa only [hfault] using h)
  rcases Nat.eq_zero_or_pos size with rfl | hs
  · rw [pieces, if_pos (by simp)] at hpieces
    simp at hpieces
  · rw [← pieces_flatten hs feed.items]
    exact List.mem_flatten_of_mem hpieces ha

end Feed

namespace Outcome

variable {α β : Type}

/-- An outcome with changed items. -/
def map (f : α → β) (o : Outcome α) : Outcome β where
  items := o.items.map f
  fault := o.fault
  failures := o.failures

@[simp] theorem map_items (f : α → β) (o : Outcome α) : (o.map f).items = o.items.map f := rfl
@[simp] theorem map_fault (f : α → β) (o : Outcome α) : (o.map f).fault = o.fault := rfl
@[simp] theorem map_failures (f : α → β) (o : Outcome α) : (o.map f).failures = o.failures := rfl

theorem map_id (o : Outcome α) : o.map id = o := by simp [map]

theorem map_append (f : α → β) (first second : Outcome α) :
    (first.append second).map f = (first.map f).append (second.map f) := by
  rw [append, append, map_fault]
  cases hfault : first.fault with
  | some fault => rfl
  | none => simp [map]

theorem map_concat (f : α → β) (stages : List (Outcome α)) :
    (concat stages).map f = concat (stages.map (map f)) := by
  induction stages with
  | nil => rfl
  | cons o stages ih => exact (map_append f o (concat stages)).trans (congrArg _ ih)

theorem map_ofResults (f : α → β) (results : Feed (Outcome α)) :
    (ofResults results).map f = ofResults (results.map (map f)) := by
  simp [ofResults, map, Feed.map, List.flatMap_map, List.map_flatMap]

end Outcome

/-! ### Stages -/

namespace Scheduling

variable {α β γ : Type} {s : Scheduling} {work : α → Except Fault β} {work' : α → Except Fault γ}
  {g : β → γ}

/-- Draining hands out changed results: by induction on the turns that are left, as what is in
flight and unread has been in flight or unread before. -/
theorem drain_map {fault : Option Fault} {fuel turn : ℕ} {inFlight unread : List α}
    (h : ∀ batch ∈ inFlight ++ unread, work' batch = (work batch).map g) :
    s.drain work' fault fuel turn inFlight unread =
      (s.drain work fault fuel turn inFlight unread).map g := by
  induction fuel generalizing turn inFlight unread with
  | zero => rfl
  | succ fuel ih =>
    cases hfill : s.fill inFlight unread fault with
    | error stop => simp [drain, hfill, Feed.map, Feed.failed]
    | ok filled =>
      obtain ⟨inFlight', unread'⟩ := filled
      obtain ⟨rfl, rfl, -⟩ := fill_ok hfill
      rw [← List.take_append_drop (s.window - inFlight.length) unread, ← List.append_assoc] at h
      simp only [drain, hfill]
      generalize inFlight ++ unread.take (s.window - inFlight.length) = inFlight' at h ⊢
      cases hget : inFlight'[s.choice turn inFlight'.length]? with
      | none => rfl
      | some batch =>
        simp only [h batch (List.mem_append_left _ (List.mem_of_getElem? hget))]
        cases work batch with
        | error stop => rfl
        | ok result =>
          refine congrArg (Feed.cons (g result)) (ih fun batch hbatch => h batch ?_)
          exact ((List.eraseIdx_sublist inFlight' _).append (.refl _)).subset hbatch

theorem run_map {batches : Feed α} (h : ∀ batch ∈ batches.items, work' batch = (work batch).map g) :
    s.run work' batches = (s.run work batches).map g := by
  unfold run
  split_ifs
  · rfl
  · refine Feed.traverse_map batches.fault fun batch hbatch => ?_
    rw [h batch hbatch]
    cases work batch <;> rfl
  · exact drain_map h

end Scheduling

namespace Backend

variable {α β γ δ : Type} {b : Backend}

theorem workOn_map {stage : Stage} {step : Row → Except Fault (List α)}
    {step' : Row → Except Fault (List β)} {f : α → β} {batch : List NumberedRow}
    (h : ∀ row ∈ batch, step' row.values = (step row.values).map (List.map f)) :
    b.workOn stage step' batch = (b.workOn stage step batch).map (Outcome.map f) := by
  induction batch with
  | nil => rfl
  | cons row batch ih =>
    rw [workOn, workOn, h row (by simp), ih fun row hrow => h row (by simp [hrow])]
    cases step row.values with
    | ok items => cases b.workOn stage step batch <;> simp [Except.map, Outcome.map]
    | error fault =>
      cases hfailure : b.failure stage (.row row.id) fault with
      | error stop => simp [hfailure, Except.map]
      | ok failure =>
        cases b.workOn stage step batch <;> simp [hfailure, Except.map, Outcome.map, Outcome.report]

/-- A stage whose step makes changed items of each row. -/
theorem workThrough_map {stage : Stage} {size : ℕ} {step : Row → Except Fault (List α)}
    {step' : Row → Except Fault (List β)} {f : α → β} {rows : Feed Row}
    (h : ∀ row ∈ rows.items, step' row = (step row).map (List.map f)) :
    b.workThrough stage size step' rows = (b.workThrough stage size step rows).map f := by
  rw [workThrough, workThrough, Outcome.map_ofResults]
  refine congrArg _ (Scheduling.run_map fun batch hbatch => workOn_map fun row hrow => ?_)
  refine h row.values ?_
  rw [← rows.numbered_values]
  exact List.mem_map_of_mem (Feed.mem_of_mem_batches hbatch hrow)

/-- Work on changed items one by one, each of which makes changed items. -/
theorem eachOf_map {stage : Stage} {place : Place} {step : α → Except Fault (List β)}
    {step' : γ → Except Fault (List δ)} {k : α → γ} {g : β → δ} {as : List α}
    (h : ∀ a ∈ as, step' (k a) = (step a).map (List.map g)) :
    b.eachOf stage place step' (as.map k) = (b.eachOf stage place step as).map g := by
  induction as with
  | nil => rfl
  | cons a as ih =>
    have hrest := ih fun a ha => h a (by simp [ha])
    rw [List.map_cons, eachOf, eachOf, h a (by simp), hrest]
    cases step a with
    | ok items => exact (Outcome.map_append g { items } _).symm
    | error fault => cases hfailure : b.failure stage place fault <;> simp [Except.map, hfailure] <;> rfl

/-- Setting changed records apart, if they have their keys. -/
theorem spill_map {key : α → Key} {key' : β → Key} {putAside : α → α} {putAside' : β → β}
    {f : α → β} (hkey : ∀ a, key' (f a) = key a) (hput : ∀ a, putAside' (f a) = f (putAside a))
    (records : Outcome α) :
    b.spill key' putAside' (records.map f) =
      (b.spill key putAside records).map (List.map (Prod.map id f)) := by
  have hbuckets : Buckets.ofRecords b.partitioning key' putAside' (records.items.map f) =
      (Buckets.ofRecords b.partitioning key putAside records.items).map
        (List.map (Prod.map id f)) := by
    rw [Buckets.ofRecords, Buckets.ofRecords]
    cases b.partitioning.fault? with
    | some stop => rfl
    | none =>
      refine mapM_map_map fun a => ?_
      rw [hkey, hput]
      cases b.partitioning.bucketOf (key a) <;> rfl
  rw [spill, spill, Outcome.map_items, Outcome.map_fault, hbuckets]
  cases Buckets.ofRecords b.partitioning key putAside records.items with
  | error stop => rfl
  | ok buckets => cases records.fault <;> rfl

end Backend

theorem Buckets.bucket_prodMap {α β : Type} (f : α → β) (buckets : Buckets α) (number : ℕ) :
    bucket (List.map (Prod.map id f) buckets) number = (buckets.bucket number).map f := by
  simp [bucket, List.filter_map, Function.comp_def]

/-! ### Joins -/

theorem JoinRecord.putAside_onColumns {f : Row → Row}
    (hf : ∀ row, f (Datum.forgetItems true row) = Datum.forgetItems true (f row))
    (r : JoinRecord) : (r.onColumns f).putAside = r.putAside.onColumns f := by
  rw [putAside, putAside, onColumns, onColumns, hf]

/-- One side makes records of all these rows, and another one the same records with changed
columns. -/
def JoinSide.RecordsChanged (side side' : JoinSide) (f : Row → Row) (rows : List Row) : Prop :=
  ∀ row ∈ rows, ∃ records, side.recordOf row = .ok records ∧
    side'.recordOf row = .ok (records.map (JoinRecord.onColumns f))

theorem JoinSide.RecordsChanged.flatMap_made {side side' : JoinSide} {f : Row → Row}
    {rows : List Row} (h : side.RecordsChanged side' f rows) :
    (rows.flatMap fun row => made (side'.recordOf row)) =
      (rows.flatMap fun row => made (side.recordOf row)).map (JoinRecord.onColumns f) := by
  rw [List.map_flatMap]
  refine List.flatMap_congr fun row hrow => ?_
  obtain ⟨records, hrecords, hchanged⟩ := h row hrow
  rw [hrecords, hchanged, made_ok, made_ok]

section Joins

variable {p q : JoinPlan} {f k g : Row → Row}

namespace JoinPlan

/-- A sample of rows of which none fails. -/
theorem sample_onColumns (h : p.SameMatching q) {builtRows : List Row}
    {probedRows : Except Fault (List Row)} (hbuilt : p.build.RecordsChanged q.build f builtRows)
    (hprobed : ∀ rows, probedRows = .ok rows → p.probe.RecordsChanged q.probe k rows)
    (hassemble : ∀ rows, probedRows = .ok rows → p.AssemblesChanged q f k g
      (builtRows.flatMap fun row => made (p.build.recordOf row))
      (rows.flatMap fun row => made (p.probe.recordOf row))) :
    q.sample builtRows probedRows = (p.sample builtRows probedRows).map g := by
  have hok : ∀ row ∈ builtRows, ∃ records, p.build.recordOf row = .ok records := fun row hrow =>
    (hbuilt row hrow).imp fun _ hrecords => hrecords.1
  have hok' : ∀ row ∈ builtRows, ∃ records, q.build.recordOf row = .ok records := fun row hrow =>
    (hbuilt row hrow).elim fun _ hrecords => ⟨_, hrecords.2⟩
  have hindex := JoinIndex.ofRecords_changed h f
    (builtRows.flatMap fun row => made (p.build.recordOf row))
  rw [JoinIndex.ofRecords, ← hbuilt.flatMap_made] at hindex
  unfold sample
  rw [foldlM_of_ok hok, foldlM_of_ok hok', hindex, ← JoinIndex.ofRecords]
  cases hof : JoinIndex.ofRecords p (builtRows.flatMap fun row => made (p.build.recordOf row)) with
  | error stop => rfl
  | ok index =>
    cases probedRows with
    | error stop => rfl
    | ok rows =>
      refine Feed.traverse_map none fun row hrow => ?_
      obtain ⟨records, hrecords, hchanged⟩ := hprobed rows rfl row hrow
      have heach : ∀ r ∈ records, (index.changed f).probe q (r.onColumns k) =
          (index.probe p r).map (List.map g) := fun r hr =>
        (hassemble rows rfl).probe_eq h hof (List.mem_flatMap.2 ⟨row, hrow, by rwa [hrecords]⟩)
      simp only [hrecords, hchanged, ok_bind]
      rw [mapM_map, mapM_congr heach, mapM_map_results]
      cases records.mapM (index.probe p) <;> simp [Except.map, List.map_flatten]

end JoinPlan

namespace Backend

variable {b : Backend}

/-- The join of one bucket. -/
theorem joinBucket_onColumns (h : p.SameMatching q) (number : ℕ) {built probed : List JoinRecord}
    (hassemble : p.AssemblesChanged q f k g built probed) :
    b.joinBucket q number (built.map (JoinRecord.onColumns f))
        (probed.map (JoinRecord.onColumns k)) =
      (b.joinBucket p number built probed).map g := by
  rw [joinBucket, joinBucket, JoinIndex.ofRecords_changed h, List.isEmpty_map]
  split_ifs
  · rfl
  · cases hof : JoinIndex.ofRecords p built with
    | error fault =>
      cases hfailure : b.failure .join (.bucket number) fault <;>
        simp [Except.map, hfailure] <;> rfl
    | ok index => exact eachOf_map fun r hr => hassemble.probe_eq h hof hr

theorem mem_bucket_of_spill {records : Outcome JoinRecord} {buckets : Buckets JoinRecord}
    (h : b.spill (fun r => r.key) JoinRecord.putAside records = .ok buckets) (number : ℕ) :
    buckets.bucket number ⊆ records.items.map JoinRecord.putAside := by
  obtain ⟨-, rfl⟩ := spill_records_eq_ok_iff.1 h
  rw [Buckets.bucket_map]
  exact List.map_subset _ (List.filter_sublist.subset)

theorem spill_onColumns
    (hf : ∀ row, f (Datum.forgetItems true row) = Datum.forgetItems true (f row))
    (records : Outcome JoinRecord) :
    b.spill (fun r => r.key) JoinRecord.putAside (records.map (JoinRecord.onColumns f)) =
      (b.spill (fun r => r.key) JoinRecord.putAside records).map
        (List.map (Prod.map id (JoinRecord.onColumns f))) :=
  spill_map (fun _ => rfl) (JoinRecord.putAside_onColumns hf) records

/-- The join of both sides: the records that are put aside have changed columns when they are read
back. -/
theorem joinAll_onColumns (h : p.SameMatching q)
    (hf : ∀ row, f (Datum.forgetItems true row) = Datum.forgetItems true (f row))
    (hk : ∀ row, k (Datum.forgetItems true row) = Datum.forgetItems true (k row))
    {built probed : Outcome JoinRecord}
    (hassemble : p.AssemblesChanged q f k g (built.items.map JoinRecord.putAside)
      (probed.items.map JoinRecord.putAside)) :
    b.joinAll q (built.map (JoinRecord.onColumns f)) (probed.map (JoinRecord.onColumns k)) =
      (b.joinAll p built probed).map g := by
  rw [joinAll, joinAll, spill_onColumns hf, spill_onColumns hk]
  cases hbuilt : b.spill (fun r => r.key) JoinRecord.putAside built with
  | error fault => rfl
  | ok builtBuckets =>
    cases hprobed : b.spill (fun r => r.key) JoinRecord.putAside probed with
    | error fault => rfl
    | ok probedBuckets =>
      have heach : ∀ number, b.joinBucket q number
          ((builtBuckets.bucket number).map (JoinRecord.onColumns f))
          ((probedBuckets.bucket number).map (JoinRecord.onColumns k)) =
            (b.joinBucket p number (builtBuckets.bucket number)
              (probedBuckets.bucket number)).map g := fun number =>
        joinBucket_onColumns h number (hassemble.mono (mem_bucket_of_spill hbuilt number)
          (mem_bucket_of_spill hprobed number))
      have hjoined : Outcome.concat (b.bucketNumbers.map fun number =>
          (b.joinBucket p number (builtBuckets.bucket number)
            (probedBuckets.bucket number)).map g) = Outcome.map g _ :=
        (congrArg _ (List.map_map ..).symm).trans (Outcome.map_concat g _).symm
      simp only [Except.map, Buckets.bucket_prodMap, heach, hjoined]
      rfl

/-- The records of a side, of whose rows none fails. -/
theorem recordsOfSide_onColumns {store : Store} {stage : Stage} {side side' : JoinSide}
    (hsource : side'.source = side.source) (hsize : side'.batchSize = side.batchSize)
    (h : side.RecordsChanged side' f (side.source.rows store).items) :
    b.recordsOfSide store stage side' =
      (b.recordsOfSide store stage side).map (JoinRecord.onColumns f) := by
  rw [recordsOfSide, recordsOfSide, hsource, hsize]
  refine workThrough_map fun row hrow => ?_
  obtain ⟨records, hrecords, hchanged⟩ := h row hrow
  rw [hrecords, hchanged]
  rfl

end Backend

end Joins

end TablePipeline
